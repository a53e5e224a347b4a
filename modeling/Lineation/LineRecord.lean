import Lineation.Token

/-!
# Line records

The tokens of one line of a text, with the number of the line and its characters as they stood.
A line extends over several physical lines when a delimited region crosses their ends.
-/

namespace Lineation

/-- One line: its number, its characters including the newline, and its tokens. -/
structure LineRecord where
  number : Nat
  source : String
  tokens : Array Token
deriving Inhabited

namespace LineRecord

/-- The number of tokens. -/
def size (record : LineRecord) : Nat :=
  record.tokens.size

def isEmpty (record : LineRecord) : Bool :=
  record.tokens.isEmpty

/-- The texts of the tokens, in order. -/
def texts (record : LineRecord) : List String :=
  record.tokens.toList.map Token.text

/-- Records are equal when number and tokens are; the characters do not count. -/
instance : BEq LineRecord := ⟨fun a b => a.number == b.number && a.tokens == b.tokens⟩

/-- Number, characters and tokens. -/
def toJson (record : LineRecord) : Json :=
  .object [
    ("line_number", .number record.number),
    ("original", .string record.source),
    ("tokens", .array (record.tokens.toList.map Token.toJson))]

end LineRecord

end Lineation
