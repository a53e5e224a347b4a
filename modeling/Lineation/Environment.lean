/-!
# Environment

The environment variables that a program sees.
-/

namespace Lineation

/-- Variables with their values. -/
structure Environment where
  values : List (String × String) := []
deriving Repr, DecidableEq, Inhabited

namespace Environment

/-- The value of a variable. -/
def get? (environment : Environment) (name : String) : Option String :=
  environment.values.lookup name

/-- A variable that is exactly `true` or `false`; anything else counts as not set. -/
def flag (environment : Environment) (name : String) (default : Bool) : Bool :=
  match environment.get? name with
  | some "true" => true
  | some "false" => false
  | _ => default

end Environment

end Lineation
