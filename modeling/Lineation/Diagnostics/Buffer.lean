import Lineation.Diagnostics.Event
import Lineation.Limits

/-!
# Event buffers

A buffer keeps the latest events, up to its capacity. When it is full the oldest ones make room.
-/

namespace Lineation.Diagnostics

/-- The latest events, oldest first. -/
structure EventBuffer where
  capacity : Nat := Limits.current.logBufferSize
  events : Array Event := #[]
deriving Inhabited

/-- How many events of each level there are. -/
structure EventCounts where
  total : Nat
  errors : Nat
  warnings : Nat
  infos : Nat
  debugs : Nat
deriving Repr, DecidableEq, Inhabited

namespace EventBuffer

/-- Adds an event, dropping the oldest ones if there is no room. -/
def push (buffer : EventBuffer) (event : Event) : EventBuffer :=
  let kept :=
    if buffer.events.size ≥ buffer.capacity then
      buffer.events.extract (buffer.events.size + 1 - buffer.capacity) buffer.events.size
    else buffer.events
  { buffer with events := kept.push event }

def clear (buffer : EventBuffer) : EventBuffer :=
  { buffer with events := #[] }

/-- The number of events that satisfy a test. -/
def count (buffer : EventBuffer) (p : Event → Bool) : Nat :=
  buffer.events.countP p

/-- The number of events of each level. -/
def counts (buffer : EventBuffer) : EventCounts where
  total := buffer.events.size
  errors := buffer.count Event.isError
  warnings := buffer.count Event.isWarning
  infos := buffer.count Event.isInfo
  debugs := buffer.count Event.isDebug

/-- The events with a code. -/
def withCode (buffer : EventBuffer) (code : Code) : Array Event :=
  buffer.events.filter (·.code == code)

/-- Whether some event has the level and the code. -/
def has (buffer : EventBuffer) (level : Level) (code : Code) : Bool :=
  buffer.events.any fun event => event.level == level && event.code == code

end EventBuffer

end Lineation.Diagnostics
