import Lineation.Text.Printable
import Lineation.Text.Extending

/-!
# Quoted text

Text is shown with the characters that have no visible form, and those that would be misread,
written as escapes. A quoted text stands in double quotes; an escaped one stands bare.

Main definitions:
* `escapeChar`: the escape of one character under a style;
* `quoted`: the text between double quotes;
* `escaped`: the text without quotes around it, both kinds of quote escaped.
-/

namespace Lineation.Text

/-- Which characters besides the fixed ones are escaped. -/
structure EscapeStyle where
  /-- Quote characters that take a backslash. -/
  quotes : List Char
  /-- Whether a mark that would join the character before it is escaped. -/
  extending : Bool
deriving Repr, DecidableEq

/-- Escape by code point: `\u`, then the code point in hexadecimal between braces. -/
def escapeCodePoint (c : Char) : List Char :=
  ['\\', 'u', '\x7b'] ++ Nat.toDigits 16 c.toNat ++ ['\x7d']

/-- One character as it is shown. -/
def escapeChar (style : EscapeStyle) (c : Char) : List Char :=
  if c = '\x00' then ['\\', '0']
  else if c = '\t' then ['\\', 't']
  else if c = '\r' then ['\\', 'r']
  else if c = '\n' then ['\\', 'n']
  else if c = '\\' then ['\\', '\\']
  else if c ∈ style.quotes then ['\\', c]
  else if style.extending && isExtending c then escapeCodePoint c
  else if isPrintable c then [c]
  else escapeCodePoint c

/-- Inside double quotes: only the double quote is escaped, and every extending mark. -/
def EscapeStyle.quoted : EscapeStyle := ⟨['"'], true⟩

/-- The first character of bare text: both quotes are escaped, and an extending mark, which has
nothing to join. -/
def EscapeStyle.leading : EscapeStyle := ⟨['"', '\''], true⟩

/-- Later characters of bare text: an extending mark joins the character before it. -/
def EscapeStyle.following : EscapeStyle := ⟨['"', '\''], false⟩

/-- The text between double quotes. -/
def quoted (text : String) : String :=
  String.ofList ('"' :: text.toList.flatMap (escapeChar .quoted) ++ ['"'])

/-- The text with escapes and without quotes around it. -/
def escaped (text : String) : String :=
  match text.toList with
  | [] => ""
  | c :: rest => String.ofList (escapeChar .leading c ++ rest.flatMap (escapeChar .following))

end Lineation.Text
