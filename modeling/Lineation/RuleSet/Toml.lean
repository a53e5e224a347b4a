import Lineation.RuleSet
import Lineation.Toml.Reader

/-!
# Rule sets as configuration files

A rule set is read from a configuration file with four names, all of which may be missing, and
written to one. The entries are taken in the order in which they stand, so that the first one that
is not what is wanted is the one that is told.

Main definitions:
* `RuleSet.ofToml`: the rule set that a file holds;
* `RuleSet.toToml`: the file of a rule set.
-/

namespace Lineation.RuleSet

/-- Why a text holds no rule set. -/
inductive Invalid where
  | file (fault : Toml.Fault)
  | content (mismatch : Toml.Mismatch)
deriving Inhabited

def Invalid.message : Invalid → String
  | file fault => fault.message
  | content mismatch => mismatch.message

/-! ## Reading -/

/-- The two texts of a rule, as far as they are known. -/
structure RuleEntries where
  opening : Option String := none
  closing : Option String := none

/-- Takes in an entry of a rule. Unknown names are passed over. -/
def RuleEntries.put (known : RuleEntries) : String × Toml.Value → Except Toml.Mismatch RuleEntries
  | (name, value) =>
    if name = "start" then do return { known with opening := ← value.asString }
    else if name = "end" then do return { known with closing := ← value.asString }
    else return known

/-- The rule whose two texts are known. -/
def RuleEntries.rule : RuleEntries → Except Toml.Mismatch RegionRule
  | ⟨none, _⟩ => .error (.missing "start")
  | ⟨_, none⟩ => .error (.missing "end")
  | ⟨some opening, some closing⟩ => .ok ⟨opening, closing⟩

/-- A rule from its two texts, by name or by position. -/
def ruleOfValue : Toml.Value → Except Toml.Mismatch RegionRule
  | .table entries => do (← entries.foldlM RuleEntries.put {}).rule
  | .array (opening :: closing :: _) => do return ⟨← opening.asString, ← closing.asString⟩
  | .array [opening] => do
    let _ ← opening.asString
    throw (.tooShort 1 "struct RuleConfig with 2 elements")
  | .array [] => .error (.tooShort 0 "struct RuleConfig with 2 elements")
  | .moment => RuleEntries.rule {}
  | value => .error (.wrongKind value "struct RuleConfig")

/-- Takes in an entry of a file. Unknown names are passed over. -/
def put (rules : RuleSet) : String × Toml.Value → Except Toml.Mismatch RuleSet
  | (name, value) =>
    if name = "special_alphabets" then
      do return { rules with groups := ← (← value.asArray).mapM Toml.Value.asString }
    else if name = "individual_chars" then do return { rules with individual := ← value.asString }
    else if name = "separators" then do return { rules with separators := ← value.asString }
    else if name = "combining_rules" then
      do return { rules with regions := ← (← value.asArray).mapM ruleOfValue }
    else return rules

/-- A rule set from a table. -/
def ofValue : Toml.Value → Except Toml.Mismatch RuleSet
  | .table entries => entries.foldlM put {}
  | value => .error (.wrongKind value "struct TokenizerConfig")

/-- The rule set that a file holds. -/
def ofToml (text : String) : Except Invalid RuleSet :=
  match Toml.parse text with
  | .error fault => .error (.file fault)
  | .ok table => (ofValue table).mapError .content

/-! ## Writing -/

/-- A rule as an element of an array of tables. -/
def ruleToml (rule : RegionRule) : String :=
  "\n[[combining_rules]]\nstart = " ++ Toml.writeQuoted rule.opening ++
    "\nend = " ++ Toml.writeQuoted rule.closing ++ "\n"

/-- The file of a rule set. -/
def toToml (rules : RuleSet) : String :=
  "special_alphabets = [" ++ ", ".intercalate (rules.groups.map Toml.writeQuoted) ++ "]\n" ++
    "individual_chars = " ++ Toml.writeQuoted rules.individual ++ "\n" ++
    "separators = " ++ Toml.writeQuoted rules.separators ++ "\n" ++
    if rules.regions.isEmpty then "combining_rules = []\n"
    else String.join (rules.regions.map ruleToml)

end Lineation.RuleSet
