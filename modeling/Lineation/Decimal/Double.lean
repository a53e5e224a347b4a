import Lineation.Decimal.Fixed

/-!
# Doubles and their shortest decimals

A number that is written in decimal is kept as the double next to it. A double is told by the fewest
digits that lead back to it; of several such decimals it is the nearest one, and of two that are
equally near the larger. All of it is exact arithmetic on quotients of natural numbers.

Main definitions:
* `Double.ofDigits?`: the double next to a decimal, if that is not beyond all doubles;
* `Double.claims`: the decimals that lead back to a double;
* `Double.shortest`: the shortest of them.
-/

namespace Lineation.Decimal

/-- A finite double that is not negative, `mantissa * 2 ^ exponent`. The mantissa has 53 binary
digits, or fewer at the least exponent. -/
structure Double where
  mantissa : Nat
  exponent : Int
deriving Repr, DecidableEq, Inhabited

/-- A quotient times a power of `base`. -/
def scaled (base : Nat) (power : Int) (ratio : Nat × Nat) : Nat × Nat :=
  (ratio.1 * Nat.pow base power.toNat, ratio.2 * Nat.pow base (-power).toNat)

namespace Double

def leastExponent : Int := -1074

def greatestExponent : Int := 971

/-- The least mantissa of 53 binary digits. -/
def leastFull : Nat := Nat.pow 2 52

def zero : Double := ⟨0, leastExponent⟩

/-- The double next to a quotient, of two equally near ones that with the even mantissa. Nothing if
it is beyond all doubles. -/
def nearest? (ratio : Nat × Nat) : Option Double :=
  let low : Int := (ratio.1.log2 : Int) - ratio.2.log2 - 53
  let (num, den) := scaled 2 (-low) ratio
  let exponent := max leastExponent (if num / den ≥ 2 * leastFull then low + 1 else low)
  let (num, den) := scaled 2 (-exponent) ratio
  let mantissa := roundHalfEven num den
  let rounded : Double :=
    if mantissa ≥ 2 * leastFull then ⟨leastFull, exponent + 1⟩ else ⟨mantissa, exponent⟩
  if rounded.exponent > greatestExponent then none else some rounded

/-- More digits than a number half way between two doubles has. Of the digits after them it only
matters whether one of them is not zero. -/
def decisiveDigits : Nat := 800

/-- The double next to the whole number with these digits, first to last, times `10 ^ exponent`.
Numbers of more than 310 digits are beyond all doubles, and those that start more than 330 places
behind the point are next to zero. -/
def ofDigits? (digits : List Nat) (exponent : Int) : Option Double :=
  let digits := digits.dropWhile (· == 0)
  let size := (digits.length : Int) + exponent
  if digits.isEmpty || size < -330 then some zero
  else if size > 310 then none
  else
    let (decisive, others) := digits.splitAt decisiveDigits
    let last := if others.all (· == 0) then 0 else 1
    let number := (decisive ++ [last]).foldl (fun n digit => 10 * n + digit) 0
    nearest? (scaled 10 (exponent + others.length - 1) (number, 1))

/-- Whether `digits * 10 ^ power` leads back to a double: it is nearer to it than to any other, or
half way to one and the mantissa is even. Below a power of two doubles lie twice as close. -/
def claims (x : Double) (digits : Nat) (power : Int) : Bool :=
  let (num, den) := scaled 10 power (scaled 2 (2 - x.exponent) (digits, 1))
  let below := if x.mantissa = leastFull && x.exponent > leastExponent then 1 else 2
  let low := (4 * x.mantissa - below) * den
  let high := (4 * x.mantissa + 2) * den
  low < num && num < high || x.mantissa % 2 == 0 && (num == low || num == high)

/-- The multiple of `10 ^ power` next to a double on either side, if it leads back to it. Of two it
is the nearer, and the larger if they are equally near. -/
def onGrid? (x : Double) (power : Int) : Option Nat :=
  let (num, den) := scaled 10 (-power) (scaled 2 x.exponent (x.mantissa, 1))
  let below := num / den
  match x.claims below power, x.claims (below + 1) power with
  | true, true => some (if 2 * (num % den) ≥ den then below + 1 else below)
  | true, false => some below
  | false, true => some (below + 1)
  | false, false => none

/-- The value of a double as a whole number times a power of ten. -/
def exact (x : Double) : Nat × Int :=
  (x.mantissa * Nat.pow 2 x.exponent.toNat * Nat.pow 5 (-x.exponent).toNat, min x.exponent 0)

/-- The shortest decimal that leads back to a double, as a whole number and a power of ten. Powers of
ten are tried from above all doubles downwards, so that the first with a multiple that leads back is
the coarsest; the last is fine enough for seventeen digits of the least double. -/
def shortest (x : Double) : Nat × Int :=
  if x.mantissa = 0 then (0, 0)
  else
    let found := (List.range 651).findSome? fun (step : Nat) =>
      let power := 309 - (step : Int)
      (x.onGrid? power).map fun digits => (digits, power)
    found.getD x.exact

/-- The shortest decimal without an exponent, with a digit or more on either side of the point. -/
def text (x : Double) : String :=
  let (digits, power) := x.shortest
  let (num, den) := scaled 10 power (digits, 1)
  toString (num / den) ++ "." ++ padded (max 1 (-power).toNat) (num % den)

end Double

end Lineation.Decimal
