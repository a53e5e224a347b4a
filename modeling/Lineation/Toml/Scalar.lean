import Lineation.Toml.Fault
import Lineation.Toml.Value

/-!
# Numbers, truth values and moments

The values of a configuration file that are not strings and do not hold others: a truth value, an
integer, a number with a fraction or an exponent, a date, a time of day, or both. Digits may be
grouped by single underscores. Integers fit in 64 bits with a sign, and no number is so large that
it would be read as infinite.

A value is read as far as it goes; what may follow it is for the reader around it to say. Where
digits may start a moment, a number with a fraction and an integer, they are tried in this order.

Main definitions:
* `readInteger`, `readFloat`, `readMoment`: the three kinds that start with a digit;
* `readScalar`: any of the values.
-/

namespace Lineation.Toml

namespace Scalar

/-! ## Digits -/

/-- Digits after those in `read`, which are latest first, with the underscores taken out. Nothing
if an underscore is not followed by a digit. -/
def moreDigits? (isDigit : Char → Bool) (read : List Char) :
    List Char → Option (List Char × List Char)
  | '_' :: c :: rest => if isDigit c then moreDigits? isDigit (c :: read) rest else none
  | ['_'] => none
  | c :: rest =>
    if isDigit c then moreDigits? isDigit (c :: read) rest else some (read.reverse, c :: rest)
  | [] => some (read.reverse, [])

/-- One digit or more. `missing` is the fault if there is none, `loose` the fault of an underscore
that no digit follows. -/
def readDigits (isDigit : Char → Bool) (missing loose : Fault) : List Char → Reading (List Char)
  | [] => .error (.broken missing)
  | c :: rest =>
    if isDigit c then
      match moreDigits? isDigit [c] rest with
      | some result => .ok result
      | none => .error (.broken loose)
    else .error (.broken missing)

/-- The value of a digit in any base. -/
def digitValue (c : Char) : Nat :=
  if c.isDigit then c.toNat - '0'.toNat
  else if 'a' ≤ c && c ≤ 'f' then c.toNat - 'a'.toNat + 10
  else c.toNat - 'A'.toNat + 10

/-- The number with these digits. -/
def ofDigits (base : Nat) (digits : List Char) : Nat :=
  digits.foldl (fun n c => base * n + digitValue c) 0

/-- The number with these digits, of which no more are taken up once it has reached the bound. A
number below the bound is told exactly, and one from the bound on stays there. -/
def ofDigitsUpTo (bound base : Nat) (digits : List Char) : Nat :=
  digits.foldl (fun n c => if n < bound then base * n + digitValue c else n) 0

/-- Takes a sign off: whether it is a minus, and what follows. -/
def takeSign : List Char → Bool × List Char
  | '-' :: rest => (true, rest)
  | '+' :: rest => (false, rest)
  | cs => (false, cs)

/-- A number with a sign or without. -/
def signed (negative : Bool) (magnitude : Nat) : Int :=
  if negative then -(magnitude : Int) else magnitude

/-! ## Integers -/

def isHexDigit (c : Char) : Bool :=
  c.isDigit || ('a' ≤ c && c ≤ 'f') || ('A' ≤ c && c ≤ 'F')

def isOctalDigit (c : Char) : Bool :=
  '0' ≤ c && c ≤ '7'

def isBinaryDigit (c : Char) : Bool :=
  c == '0' || c == '1'

/-- An integer that fits in 64 bits with a sign. Its digits need not be taken up any further than to
where no integer fits. -/
def fitted (negative : Bool) (base : Nat) (digits rest : List Char) : Reading Int :=
  let n := signed negative (ofDigitsUpTo (Nat.pow 2 64) base digits)
  if n > 9223372036854775807 then .error (.broken (.because none .tooLarge))
  else if n < -9223372036854775808 then .error (.broken (.because none .tooSmall))
  else .ok (n, rest)

/-- A sign and decimal digits. A zero in front stands alone. -/
def readDecimal (cs : List Char) : Reading (Bool × List Char) :=
  match takeSign cs with
  | (negative, '0' :: rest) => .ok ((negative, ['0']), rest)
  | (negative, c :: rest) =>
    if c.isDigit then
      match moreDigits? Char.isDigit [c] rest with
      | some (digits, rest) => .ok ((negative, digits), rest)
      | none => .error (.broken (.of .integer [.digit]))
    else .error (.absent (.of .integer []))
  | (_, []) => .error (.absent (.of .integer []))

/-- An integer after the mark of its base. -/
def readBased (construct : Construct) (base : Nat) (isDigit : Char → Bool) (cs : List Char) :
    Reading Int :=
  match readDigits isDigit (.of construct []) (.of construct [.digit]) cs with
  | .ok (digits, rest) => fitted false base digits rest
  | .error failure => .error failure

/-- An integer in base ten or with the mark of another base. -/
def readInteger : List Char → Reading Int
  | '0' :: 'x' :: rest => readBased .hexadecimal 16 isHexDigit rest
  | '0' :: 'o' :: rest => readBased .octal 8 isOctalDigit rest
  | '0' :: 'b' :: rest => readBased .binary 2 isBinaryDigit rest
  | cs =>
    match readDecimal cs with
    | .ok ((negative, digits), rest) => fitted negative 10 digits rest
    | .error failure => .error failure

/-! ## Numbers with a fraction or an exponent -/

/-- Once an exponent has reached this bound, the digits that follow are passed over. That makes a
difference only if tens of thousands of digits or places stand in front of it. -/
def exponentBound : Nat := 65536

/-- The exponent, zero if there is none. Its digits are passed over from where it has reached
`exponentBound`. -/
def readExponent : List Char → Reading Int
  | c :: rest =>
    if c == 'e' || c == 'E' then
      let (negative, rest) := takeSign rest
      match readDigits Char.isDigit (.of .float []) (.of .float [.digit]) rest with
      | .ok (digits, rest) => .ok (signed negative (ofDigitsUpTo exponentBound 10 digits), rest)
      | .error failure => .error failure
    else .ok (0, c :: rest)
  | [] => .ok (0, [])

/-- A number from its sign, its digits, how many of them are behind the point, and its exponent. A
number below all doubles is infinite; one above all doubles is refused. -/
def finished (negative : Bool) (digits : List Char) (places : Nat) (exponent : Int)
    (rest : List Char) : Reading FloatLiteral :=
  match Decimal.Double.ofDigits? (digits.map digitValue) (exponent - places) with
  | some magnitude => .ok (.finite negative magnitude, rest)
  | none =>
    if negative then .ok (.infinite true, rest) else .error (.broken (.of .float []))

/-- An infinity or what is not a number, with a sign or without. -/
def readSpecial (cs : List Char) : Reading FloatLiteral :=
  match takeSign cs with
  | (negative, 'i' :: 'n' :: 'f' :: rest) => .ok (.infinite negative, rest)
  | (_, 'n' :: 'a' :: 'n' :: rest) => .ok (.notNumber, rest)
  | _ => .error (.absent (.of .float []))

/-- A number with a fraction, an exponent, or both. -/
def readFloat (cs : List Char) : Reading FloatLiteral :=
  match readDecimal cs with
  | .error (.broken fault) => .error (.broken fault)
  | .error (.absent _) => readSpecial cs
  | .ok ((negative, whole), rest) =>
    match rest with
    | '.' :: rest =>
      match readDigits Char.isDigit (.of .float [.digit]) (.of .float [.digit, .digit]) rest with
      | .error failure => .error failure
      | .ok (fraction, rest) =>
        match readExponent rest with
        | .error failure => .error failure
        | .ok (exponent, rest) =>
          finished negative (whole ++ fraction) fraction.length exponent rest
    | c :: _ =>
      if c == 'e' || c == 'E' then
        match readExponent rest with
        | .error failure => .error failure
        | .ok (exponent, rest) => finished negative whole 0 exponent rest
      else readSpecial cs
    | [] => readSpecial cs

/-! ## Moments -/

/-- A number of two digits in a range. -/
def readTwo (construct : Construct) (low high : Nat) :
    List Char → Except Fault (Nat × List Char)
  | a :: b :: rest =>
    let n := 10 * digitValue a + digitValue b
    if !(a.isDigit && b.isDigit) then .error (.of construct [])
    else if low ≤ n && n ≤ high then .ok (n, rest)
    else .error (.because construct .outOfRange)
  | _ => .error (.of construct [])

/-- A mark that must stand here. -/
def readMark (construct : Construct) (mark : Char) : List Char → Except Fault (List Char)
  | c :: rest => if c == mark then .ok rest else .error (.of construct [])
  | [] => .error (.of construct [])

def isLeapYear (year : Nat) : Bool :=
  year % 4 == 0 && (year % 100 != 0 || year % 400 == 0)

def daysIn (year month : Nat) : Nat :=
  if month = 2 then if isLeapYear year then 29 else 28
  else if month = 4 || month = 6 || month = 9 || month = 11 then 30
  else 31

/-- The month and the day of a date, after its year. -/
def readMonthDay (year : Nat) (cs : List Char) : Except Fault (List Char) := do
  let (month, rest) ← readTwo .moment 1 12 cs
  let (day, rest) ← readTwo .moment 1 31 (← readMark .moment '-' rest)
  if day ≤ daysIn year month then return rest else throw (.because Construct.moment .outOfRange)

/-- A date: what follows it. -/
def readDate : List Char → Reading Unit
  | a :: b :: c :: d :: '-' :: rest =>
    if [a, b, c, d].all Char.isDigit then
      .begun ((readMonthDay (ofDigits 10 [a, b, c, d]) rest).map fun rest => ((), rest))
    else .error (.absent (.of .moment []))
  | _ => .error (.absent (.of .moment []))

/-- The rest of a time of day, after the hour: minutes, seconds, and a fraction of a second. -/
def readMinutes (construct : Construct) (cs : List Char) : Except Fault (List Char) := do
  let (_, rest) ← readTwo construct 0 59 cs
  let (_, rest) ← readTwo construct 0 60 (← readMark construct ':' rest)
  match rest with
  | '.' :: c :: fraction =>
    return if c.isDigit then fraction.dropWhile Char.isDigit else rest
  | _ => return rest

/-- A time of day: what follows it. It has begun once its hour and a colon are read. -/
def readTime (construct : Construct) (cs : List Char) : Reading Unit :=
  match readTwo construct 0 23 cs with
  | .ok (_, ':' :: rest) =>
    .begun ((readMinutes construct rest).map fun rest => ((), rest))
  | .ok _ => .error (.absent (.of construct []))
  | .error fault => .error (.absent fault)

/-- An offset from universal time, or nothing. -/
def readOffset : List Char → Except Fault (List Char)
  | 'Z' :: rest => .ok rest
  | 'z' :: rest => .ok rest
  | c :: rest =>
    if c == '+' || c == '-' then do
      let (_, rest) ← readTwo .offset 0 23 rest
      let (_, rest) ← readTwo .offset 0 59 (← readMark .offset ':' rest)
      return rest
    else .ok (c :: rest)
  | [] => .ok []

/-- A time of day and an offset after a date, or nothing. -/
def readTimeAfterDate (cs : List Char) : Reading Unit :=
  match cs with
  | mark :: rest =>
    if mark == 'T' || mark == 't' || mark == ' ' then
      match readTime .moment rest with
      | .ok (_, rest) => .begun ((readOffset rest).map fun rest => ((), rest))
      | .error (.absent _) => .ok ((), cs)
      | .error (.broken fault) => .error (.broken fault)
    else .ok ((), cs)
  | [] => .ok ((), [])

/-- A date, a time of day, or both. -/
def readMoment (cs : List Char) : Reading Unit :=
  match readDate cs with
  | .ok (_, rest) => readTimeAfterDate rest
  | .error (.absent _) => readTime .time cs
  | .error (.broken fault) => .error (.broken fault)

/-- A value that starts with a digit or a sign. -/
def readNumber (cs : List Char) : Reading Value :=
  Reading.orElse ((readMoment cs).map fun (_, rest) => (.moment, rest)) fun _ =>
    Reading.orElse ((readFloat cs).map fun (literal, rest) => (.float literal, rest)) fun _ =>
      (readInteger cs).map fun (n, rest) => (.integer n, rest)

end Scalar

open Scalar in
/-- Reads a value that is no string and holds no others. -/
def readScalar (cs : List Char) : Reading Value :=
  match cs with
  | 't' :: 'r' :: 'u' :: 'e' :: rest => .ok (.boolean true, rest)
  | 'f' :: 'a' :: 'l' :: 's' :: 'e' :: rest => .ok (.boolean false, rest)
  | 'i' :: 'n' :: 'f' :: rest => .ok (.float (.infinite false), rest)
  | 'n' :: 'a' :: 'n' :: rest => .ok (.float .notNumber, rest)
  | 't' :: _ => .error (.broken (.wants [.text "true"]))
  | 'f' :: _ => .error (.broken (.wants [.text "false"]))
  | 'i' :: _ => .error (.absent (.wants [.text "inf"]))
  | 'n' :: _ => .error (.absent (.wants [.text "nan"]))
  | '_' :: _ => .error (.absent (.of .integer [.leadingDigit]))
  | '.' :: _ => .error (.absent (.of .float [.leadingDigit]))
  | c :: _ =>
    if c == '+' || c == '-' || c.isDigit then readNumber cs
    else .error (.absent (.of .string [.text "\"", .text "'"]))
  | [] => .error (.absent {})

end Lineation.Toml
