import Lineation.Decimal.Fixed

/-!
# Time stamps

A moment in universal time, written as date, time of day and the offset `+00:00`. Fractions of a
second are written with three, six or nine digits, the fewest that are exact.
-/

namespace Lineation

/-- A moment: seconds since the start of 1970 in universal time, and nanoseconds after that. -/
structure Stamp where
  seconds : Int := 0
  nanoseconds : Nat := 0
deriving Repr, DecidableEq, Inhabited

namespace Stamp

/-- Year, month and day of a day counted from the start of 1970, in the Gregorian calendar.
Years are counted from March so that the leap day comes last. -/
def civil (day : Int) : Int × Nat × Nat :=
  let shifted := day + 719468
  let era := shifted.fdiv 146097
  let dayOfEra := (shifted - era * 146097).toNat
  let yearOfEra := (dayOfEra - dayOfEra / 1460 + dayOfEra / 36524 - dayOfEra / 146096) / 365
  let dayOfYear := dayOfEra - (365 * yearOfEra + yearOfEra / 4 - yearOfEra / 100)
  let marchMonth := (5 * dayOfYear + 2) / 153
  let dayOfMonth := dayOfYear - (153 * marchMonth + 2) / 5 + 1
  let month := if marchMonth < 10 then marchMonth + 3 else marchMonth - 9
  let year := (yearOfEra : Int) + era * 400 + (if month ≤ 2 then 1 else 0)
  (year, month, dayOfMonth)

/-- Years outside 0 to 9999 carry a sign. -/
def yearText (year : Int) : String :=
  if year < 0 then "-" ++ Decimal.padded 4 year.natAbs
  else if year > 9999 then "+" ++ toString year.natAbs
  else Decimal.padded 4 year.natAbs

/-- The fraction of a second, with the fewest groups of three digits that are exact. -/
def fractionText (nanoseconds : Nat) : String :=
  if nanoseconds = 0 then ""
  else if nanoseconds % 1000000 = 0 then "." ++ Decimal.padded 3 (nanoseconds / 1000000)
  else if nanoseconds % 1000 = 0 then "." ++ Decimal.padded 6 (nanoseconds / 1000)
  else "." ++ Decimal.padded 9 nanoseconds

/-- Date, time of day and offset. A leap second has more than 10^9 nanoseconds. -/
def render (stamp : Stamp) : String :=
  let day := stamp.seconds.fdiv 86400
  let second := (stamp.seconds - day * 86400).toNat
  let leap := stamp.nanoseconds / 1000000000
  let (year, month, dayOfMonth) := civil day
  yearText year ++ "-" ++ Decimal.padded 2 month ++ "-" ++ Decimal.padded 2 dayOfMonth ++ "T" ++
    Decimal.padded 2 (second / 3600) ++ ":" ++ Decimal.padded 2 (second / 60 % 60) ++ ":" ++
    Decimal.padded 2 (second % 60 + leap) ++ fractionText (stamp.nanoseconds % 1000000000) ++
    "+00:00"

end Stamp

end Lineation
