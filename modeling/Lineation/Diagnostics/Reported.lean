import Lineation.Diagnostics.Session

/-!
# Reported values

A value together with the events that were reported on the way to it. Nothing is logged until a
session takes the value up.

Main definitions:
* `Reported`: a value and its events, as a monad in which events add up;
* `report`: an event;
* `Session.take`: logs the events.
-/

namespace Lineation.Diagnostics

/-- A value, and the events on the way to it. -/
structure Reported (α : Type) where
  value : α
  events : List Event := []

instance : Monad Reported where
  pure value := { value }
  bind reported next :=
    let rest := next reported.value
    ⟨rest.value, reported.events ++ rest.events⟩

/-- Reports an event. -/
def report (event : Event) : Reported Unit := ⟨(), [event]⟩

/-- Logs the events and hands on the value. -/
def Session.take {α : Type} (session : Session) (reported : Reported α) : α × Session :=
  (reported.value, session.logAll reported.events)

end Lineation.Diagnostics
