/-!
# Sets of code points

A character property is a table of inclusive ranges of code points, in increasing order.
-/

namespace Lineation.Text

/-- Inclusive ranges of code points, in increasing order. -/
abbrev CodePoints := Array (Nat × Nat)

/-- Whether some range of the table holds the character. -/
def CodePoints.contains (table : CodePoints) (c : Char) : Bool :=
  table.any fun range => range.1 ≤ c.toNat && c.toNat ≤ range.2

end Lineation.Text
