import Lineation.Decimal.Fixed

/-!
# Sizes and rates in words

A number of bytes in the largest unit that it reaches, and how fast a text was read. Sizes are
divided as binary floating point numbers.
-/

namespace Lineation.Size

/-- Divides by 1024 while the value reaches that and a larger unit is left. -/
def scale (size : Float) (unit : String) : List String → Float × String
  | [] => (size, unit)
  | next :: rest => if size ≥ 1024.0 then scale (size / 1024.0) next rest else (size, unit)

/-- The size with two places, whole bytes without. -/
def describe (bytes : Nat) : String :=
  match scale bytes.toFloat "B" ["KB", "MB", "GB"] with
  | (_, "B") => toString bytes ++ " B"
  | (size, unit) => Decimal.ofFloat 2 size ++ " " ++ unit

/-- Nanoseconds as milliseconds. -/
def milliseconds (nanoseconds : Nat) : Float :=
  ((nanoseconds / 1000000000).toFloat + (nanoseconds % 1000000000).toFloat / 1000000000.0) * 1000.0

/-- How many of `count` things there are in a millisecond; zero if no time passes. -/
def perMillisecond (count nanoseconds : Nat) : Float :=
  let time := milliseconds nanoseconds
  if time > 0.0 then count.toFloat / time else 0.0

end Lineation.Size
