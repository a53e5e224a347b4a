import Lineation.Decimal.Double
import Lineation.Text.Quoted

/-!
# Values of a configuration file

The values that a configuration file can hold. A number with a fraction or an exponent is kept as a
double, and of a moment in time it is only known that it is one, since nothing is computed with it.

Main definitions:
* `Value`: a value;
* `Mismatch`: why a value is not what is wanted.
-/

namespace Lineation.Toml

/-- A number with a fraction or an exponent. -/
inductive FloatLiteral where
  | finite (negative : Bool) (magnitude : Decimal.Double)
  | infinite (negative : Bool)
  | notNumber
deriving Repr, DecidableEq, Inhabited

/-- The number in decimal notation without an exponent. -/
def FloatLiteral.text : FloatLiteral → String
  | finite negative magnitude => (if negative then "-" else "") ++ magnitude.text
  | infinite negative => if negative then "-inf" else "inf"
  | notNumber => "NaN"

/-- A value of a configuration file. -/
inductive Value where
  | string (text : String)
  | integer (value : Int)
  | float (literal : FloatLiteral)
  | boolean (value : Bool)
  /-- A date, a time of day, or both. -/
  | moment
  | array (elements : List Value)
  | table (entries : List (String × Value))
deriving Inhabited

/-- Why a value is not what is wanted. -/
inductive Mismatch where
  | wrongKind (found : Value) (wanted : String)
  | tooShort (count : Nat) (wanted : String)
  | missing (name : String)
deriving Inhabited

namespace Value

/-- The kind of a value, as it is told of one that stands where a table is needed. -/
def kind : Value → String
  | string _ => "string"
  | integer _ => "integer"
  | float _ => "float"
  | boolean _ => "boolean"
  | moment => "datetime"
  | array _ => "array"
  | table _ => "inline table"

def isTable : Value → Bool
  | table _ => true
  | _ => false

/-- A value as it is told of one that stands where another kind is wanted. -/
def describe : Value → String
  | string text => "string " ++ Text.quoted text
  | integer value => "integer `" ++ toString value ++ "`"
  | float literal => "floating point `" ++ literal.text ++ "`"
  | boolean value => "boolean `" ++ (if value then "true" else "false") ++ "`"
  | array _ => "sequence"
  | moment | table _ => "map"

/-- The text of a string. -/
def asString : Value → Except Mismatch String
  | string text => .ok text
  | value => .error (.wrongKind value "a string")

/-- The elements of an array. -/
def asArray : Value → Except Mismatch (List Value)
  | array elements => .ok elements
  | value => .error (.wrongKind value "a sequence")

/-- The value of an integer that is not negative. -/
def natural? : Value → Option Nat
  | integer value => if value < 0 then none else some value.toNat
  | _ => none

/-- The entry of a table with this name. -/
def get? (value : Value) (name : String) : Option Value :=
  match value with
  | table entries => entries.lookup name
  | _ => none

/-- The fields of a record: a table has them by name, an array by position. An array may have
more elements than there are fields. -/
def fields? (names : List String) : Value → Option (List Value)
  | table entries => names.mapM fun name => entries.lookup name
  | array elements =>
    if names.length ≤ elements.length then some (elements.take names.length) else none
  | _ => none

end Value

def Mismatch.message : Mismatch → String
  | wrongKind found wanted => "invalid type: " ++ found.describe ++ ", expected " ++ wanted
  | tooShort count wanted => "invalid length " ++ toString count ++ ", expected " ++ wanted
  | missing name => "missing field `" ++ name ++ "`"

end Lineation.Toml
