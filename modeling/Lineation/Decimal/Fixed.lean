/-!
# Decimals with a fixed number of places

The exact value is rounded to the nearest decimal with the given number of places; a value half
way between two goes to the even one. Binary floating point numbers are taken at their exact
value.
-/

namespace Lineation.Decimal

/-- The quotient rounded to the nearest number, halves to even. -/
def roundHalfEven (num den : Nat) : Nat :=
  let quotient := num / den
  let twice := 2 * (num % den)
  if twice > den || (twice == den && quotient % 2 == 1) then quotient + 1 else quotient

/-- Digits of `n`, with zeros in front up to the given width. -/
def padded (width n : Nat) : String :=
  let digits := Nat.toDigits 10 n
  String.ofList (List.replicate (width - digits.length) '0' ++ digits)

/-- The quotient with `places` digits after the point. -/
def fixed (places num den : Nat) : String :=
  let unit := Nat.pow 10 places
  let scaled := roundHalfEven (num * unit) den
  let whole := toString (scaled / unit)
  if places = 0 then whole else whole ++ "." ++ padded places (scaled % unit)

/-- The exact value of a finite number that is not negative, as a quotient. -/
def exactQuotient (x : Float) : Nat × Nat :=
  let bits := x.toBits.toNat
  let leading := Nat.pow 2 52
  let exponent := bits / leading % 2048
  let fraction := bits % leading
  let (mantissa, scale) := if exponent = 0 then (fraction, 1) else (leading + fraction, exponent)
  if scale ≥ 1075 then (mantissa * Nat.pow 2 (scale - 1075), 1)
  else (mantissa, Nat.pow 2 (1075 - scale))

/-- A finite number that is not negative, with `places` digits after the point. -/
def ofFloat (places : Nat) (x : Float) : String :=
  let (num, den) := exactQuotient x
  fixed places num den

end Lineation.Decimal
