import Lineation.Limits
import Lineation.RuleSet
import Lineation.Token

/-!
# Tokenizers

A tokenizer is a rule set taken apart into characters, with the naming of its tokens, the settings
that say what it observes, and the limits past which it warns or stops counting. Characters fall
into four classes, tried in a fixed order.

Main definitions:
* `Tokenizer.classify`: the class of a character;
* `Tokenizer.rule?`: the region that a text opens, if any.
-/

namespace Lineation

/-- What a run observes besides the tokens. -/
structure LexicalPreferences where
  /-- Measure the longest token. -/
  detailedMetrics : Bool := true
  /-- Count the regions that each opening text opens. -/
  trackRules : Bool := false
  /-- Warn when the text ends inside a region. -/
  warnUnterminated : Bool := true
  /-- Warn about long regions and many tokens. -/
  warnThresholds : Bool := true
deriving Repr, DecidableEq, Inhabited

/-- The class of a character. -/
inductive CharClass where
  /-- A token by itself. -/
  | single
  /-- Member of the group with this position. -/
  | grouped (group : Nat)
  /-- Ends a token and belongs to none. -/
  | separator
  /-- Anything else. -/
  | ordinary
deriving Repr, DecidableEq, Inhabited

/-- How a text is split, named and observed. -/
structure Tokenizer where
  groups : List (List Char) := []
  individual : List Char := []
  separators : List Char := []
  regions : List RegionRule := []
  naming : Naming := Naming.wide
  preferences : LexicalPreferences := {}
  limits : Limits := .current

namespace Tokenizer

instance : Inhabited Tokenizer := ⟨{}⟩

/-- The tokenizer of a rule set. -/
def ofRuleSet (rules : RuleSet) (preferences : LexicalPreferences) (limits : Limits := .current) :
    Tokenizer where
  groups := rules.groups.map String.toList
  individual := rules.individual.toList
  separators := rules.separators.toList
  regions := rules.regions
  preferences := preferences
  limits := limits

/-! ## Changing a tokenizer -/

def setGroups (t : Tokenizer) (groups : List String) : Tokenizer :=
  { t with groups := groups.map String.toList }

def addGroup (t : Tokenizer) (group : String) : Tokenizer :=
  { t with groups := t.groups ++ [group.toList] }

def setIndividual (t : Tokenizer) (chars : String) : Tokenizer :=
  { t with individual := chars.toList }

def addIndividual (t : Tokenizer) (chars : String) : Tokenizer :=
  { t with individual := t.individual ++ chars.toList }

def setSeparators (t : Tokenizer) (chars : String) : Tokenizer :=
  { t with separators := chars.toList }

def addSeparators (t : Tokenizer) (chars : String) : Tokenizer :=
  { t with separators := t.separators ++ chars.toList }

def setRegions (t : Tokenizer) (regions : List RegionRule) : Tokenizer :=
  { t with regions }

def addRegion (t : Tokenizer) (rule : RegionRule) : Tokenizer :=
  { t with regions := t.regions ++ [rule] }

def setNaming (t : Tokenizer) (naming : Naming) : Tokenizer :=
  { t with naming }

def setPreferences (t : Tokenizer) (preferences : LexicalPreferences) : Tokenizer :=
  { t with preferences }

/-! ## Classes and rules -/

/-- The position of the first group that has the character. -/
def group? (t : Tokenizer) (c : Char) : Option Nat :=
  t.groups.findIdx? (·.contains c)

/-- Whether the character is a token by itself. A newline always is. -/
def isSingle (t : Tokenizer) (c : Char) : Bool :=
  c == '\n' || t.individual.contains c

/-- The class of a character: single before grouped, grouped before separator. -/
def classify (t : Tokenizer) (c : Char) : CharClass :=
  if t.isSingle c then .single
  else
    match t.group? c with
    | some group => .grouped group
    | none => if t.separators.contains c then .separator else .ordinary

/-- The first rule that the text opens. -/
def rule? (t : Tokenizer) (text : String) : Option RegionRule :=
  t.regions.find? (·.opening == text)

/-- A token with the naming of the tokenizer. -/
def token (t : Tokenizer) (text : String) : Token :=
  ⟨text, t.naming⟩

end Tokenizer

end Lineation
