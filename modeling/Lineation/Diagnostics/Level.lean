/-!
# Levels

The four levels of a diagnostic event, the most severe first. A threshold lets through its own
level and all that are more severe.
-/

namespace Lineation.Diagnostics

/-- How severe an event is. -/
inductive Level where
  | error
  | warning
  | info
  | debug
deriving Repr, DecidableEq, Inhabited

namespace Level

def rank : Level → Nat
  | error => 0
  | warning => 1
  | info => 2
  | debug => 3

/-- The label that events carry. -/
def label : Level → String
  | error => "ERROR"
  | warning => "WARN"
  | info => "INFO"
  | debug => "DEBUG"

/-- Whether a threshold lets events of a level through. -/
def admits (threshold level : Level) : Bool :=
  level.rank ≤ threshold.rank

end Level

end Lineation.Diagnostics
