import Lineation.Fingerprint
import Lineation.Json

/-!
# Tokens

A token is a piece of text with a way to derive its identifier. The identifier is always that of
the current text, and two tokens are equal when their identifiers are.
-/

namespace Lineation

/-- A way to derive an identifier from a text. -/
abbrev Naming := String → UInt64

namespace Naming

/-- The 64 bit fingerprint. -/
def wide : Naming := Fingerprint.wide

/-- The 32 bit fingerprint, widened. -/
def narrow : Naming := fun text => (Fingerprint.narrow text).toUInt64

/-- The number of bytes of the text in UTF-8. -/
def byteCount : Naming := fun text => text.utf8ByteSize.toUInt64

/-- The number of characters of the text. -/
def charCount : Naming := fun text => text.length.toUInt64

/-- One identifier for all texts. -/
def constant (id : UInt64) : Naming := fun _ => id

instance : Inhabited Naming := ⟨wide⟩

end Naming

/-- A piece of text and the way its identifier is derived. -/
structure Token where
  text : String
  naming : Naming := Naming.wide

namespace Token

instance : Inhabited Token := ⟨⟨"", Naming.wide⟩⟩

/-- The identifier of the current text. -/
def id (token : Token) : UInt64 :=
  token.naming token.text

/-- The token with another text; the identifier follows. -/
def setText (token : Token) (text : String) : Token :=
  { token with text }

instance : BEq Token := ⟨fun a b => a.id == b.id⟩

theorem beq_iff (a b : Token) : (a == b) = true ↔ a.id = b.id := by
  simp [BEq.beq]

/-- Identifier and text. -/
def toJson (token : Token) : Json :=
  .object [("id", .number token.id.toNat), ("text", .string token.text)]

end Token

end Lineation
