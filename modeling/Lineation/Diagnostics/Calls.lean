import Lineation.Diagnostics.Collector
import Lineation.Diagnostics.Service

/-!
# Calls

The changes that a collector, a buffer and a service offer, as data.

Main definitions:
* `Collector.perform`, `EventBuffer.perform`, `Service.perform`: do a call;
* `Collector.performAll`, `EventBuffer.performAll`, `Service.performAll`: do several in turn.
-/

namespace Lineation.Diagnostics

/-- A change of a collector. -/
inductive CollectorCall where
  | register (path : Path)
  | record (path : Path) (event : Event)
  /-- Forgets all files and their events. -/
  | clear
deriving Repr, DecidableEq

namespace Collector

/-- Does a call. -/
def perform (collector : Collector) : CollectorCall → Collector
  | .register path => collector.register path
  | .record path event => collector.record path event
  | .clear => collector.clear

/-- Does some calls in turn. -/
def performAll (collector : Collector) (calls : List CollectorCall) : Collector :=
  calls.foldl perform collector

end Collector

/-- A change of a buffer. -/
inductive BufferCall where
  | push (event : Event)
  /-- Forgets all events. -/
  | clear
deriving Repr, DecidableEq

namespace EventBuffer

/-- Does a call. -/
def perform (buffer : EventBuffer) : BufferCall → EventBuffer
  | .push event => buffer.push event
  | .clear => buffer.clear

/-- Does some calls in turn. -/
def performAll (buffer : EventBuffer) (calls : List BufferCall) : EventBuffer :=
  calls.foldl perform buffer

end EventBuffer

/-- A change of a service, or of a buffer that its events can arrive in. -/
inductive ServiceCall where
  | log (event : Event)
  | setThreshold (level : Level)
  /-- Forgets all events of the buffer in this slot. -/
  | clear (slot : Nat)
deriving Repr, DecidableEq

namespace Service

/-- Does a call, given what the events so far have done. -/
def perform : Service × Outlets → ServiceCall → Service × Outlets
  | (service, outlets), .log event => (service, service.log event outlets)
  | (service, outlets), .setThreshold level => ({ service with threshold := level }, outlets)
  | (service, outlets), .clear slot =>
    (service, { outlets with buffers := outlets.buffers.modify slot EventBuffer.clear })

/-- Does some calls in turn. -/
def performAll (start : Service × Outlets) (calls : List ServiceCall) : Service × Outlets :=
  calls.foldl perform start

end Service

end Lineation.Diagnostics
