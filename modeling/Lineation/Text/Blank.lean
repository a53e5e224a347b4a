/-!
# Blank characters

The White_Space property, and the two ways of trimming that are built on it.
-/

namespace Lineation.Text

/-- The White_Space property: 25 code points. -/
def isBlank (c : Char) : Bool :=
  let n := c.toNat
  (0x9 ≤ n && n ≤ 0xd) || n = 0x20 || n = 0x85 || n = 0xa0 || n = 0x1680 ||
    (0x2000 ≤ n && n ≤ 0x200a) || n = 0x2028 || n = 0x2029 || n = 0x202f || n = 0x205f ||
    n = 0x3000

/-- Drops the blank characters at both ends. -/
def trim (text : String) : String :=
  String.ofList ((text.toList.dropWhile isBlank).reverse.dropWhile isBlank).reverse

/-- Drops every copy of one character at the start. -/
def dropLeading (c : Char) (text : String) : String :=
  String.ofList (text.toList.dropWhile (· == c))

end Lineation.Text
