import Lineation.Token

/-!
# Rule sets

What tells a tokenizer how to split a text: groups of characters that stay together, characters
that stand alone, characters that separate, and pairs of texts that delimit a region.

Main definitions:
* `RegionRule`: the opening and the closing text of a region;
* `RuleSet`: the four parts, as they are written in a file;
* `RuleSet.cLike`, `RuleSet.plain`: the two built-in sets.
-/

namespace Lineation

/-- The texts that open and close a region whose characters are kept as they are. -/
structure RegionRule where
  opening : String
  closing : String
deriving Repr, DecidableEq, Inhabited

namespace RegionRule

def openingToken (rule : RegionRule) : Token := { text := rule.opening }

def closingToken (rule : RegionRule) : Token := { text := rule.closing }

/-- Whether two rules have the same tokens; tokens are compared by their identifiers. -/
def sameTokens (a b : RegionRule) : Bool :=
  a.openingToken == b.openingToken && a.closingToken == b.closingToken

/-- The two tokens. -/
def toJson (rule : RegionRule) : Json :=
  .object [("start", rule.openingToken.toJson), ("end", rule.closingToken.toJson)]

end RegionRule

/-- How a text is split. -/
structure RuleSet where
  /-- Groups of characters; a character belongs to the first group that has it. -/
  groups : List String := []
  /-- Characters that are tokens by themselves. -/
  individual : String := ""
  /-- Characters that end a token and belong to none. -/
  separators : String := ""
  /-- Delimited regions; the first rule with an opening text is the one that counts. -/
  regions : List RegionRule := []
deriving Repr, DecidableEq, Inhabited

namespace RuleSet

/-- Operators, punctuation, strings and comments in the manner of C. -/
def cLike : RuleSet where
  groups := ["+-/*=<>!"]
  individual := "&?;$#@^:\"'|.,()\x7b\x7d[]\n"
  separators := " \t"
  regions := [⟨"\"", "\""⟩, ⟨"//", "\n"⟩, ⟨"/*", "*/"⟩]

/-- Words between blanks. -/
def plain : RuleSet where
  separators := " \t\r"

end RuleSet

end Lineation
