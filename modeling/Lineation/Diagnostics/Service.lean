import Lineation.Diagnostics.Buffer

/-!
# Delivering events

Events go to sinks: buffers, the console, or a console that takes JSON. A fan-out passes events on
to several sinks. Each sink but a buffer has a threshold, and only the level of an event decides
where it arrives. A service is a sink with a threshold that can be changed.

Main definitions:
* `Sink.targets`: where an event of a level arrives;
* `Outlets.deliver`: what an arriving event does;
* `Service.log`: delivering an event.
-/

namespace Lineation.Diagnostics

/-- Where an event arrives. -/
inductive Target where
  /-- The buffer in this slot. -/
  | buffer (slot : Nat)
  | console
  | structured
deriving Repr, DecidableEq, Inhabited

/-- A destination of events. -/
inductive Sink where
  | buffer (slot : Nat)
  | console (threshold : Level)
  | structured (threshold : Level)
  | fanOut (threshold : Level) (sinks : List Sink)
deriving Inhabited

namespace Sink

mutual

/-- Where an event of a level arrives, in order. -/
def targets (level : Level) : Sink → List Target
  | buffer slot => [.buffer slot]
  | console threshold => if threshold.admits level then [.console] else []
  | structured threshold => if threshold.admits level then [.structured] else []
  | fanOut threshold sinks => if threshold.admits level then targetsOfAll level sinks else []

def targetsOfAll (level : Level) : List Sink → List Target
  | [] => []
  | sink :: rest => targets level sink ++ targetsOfAll level rest

end

/-- The number of sinks directly below. -/
def width : Sink → Nat
  | fanOut _ sinks => sinks.length
  | _ => 0

end Sink

/-- A piece of output. -/
inductive Emission where
  /-- Text for the standard output. -/
  | out (text : String)
  /-- Text for the standard error output. -/
  | err (text : String)
  /-- An event for the standard error output, as JSON on a line of its own. -/
  | record (event : Event)
deriving Repr, DecidableEq, Inhabited

/-- What a piece of output adds to the standard output. -/
def Emission.outText : Emission → String
  | out text => text
  | _ => ""

/-- A text of at most `limit` characters, and a sign that something was cut off. -/
def truncate (limit : Nat) (text : String) : String :=
  if text.length > limit then String.ofList (text.toList.take limit) ++ "..." else text

/-- What a console that shows at most `width` characters makes of an event. Errors and warnings go to
the error output. -/
def Event.onConsole (width : Nat) (event : Event) : Emission :=
  let line := truncate width event.render ++ "\n"
  match event.level with
  | .error | .warning => .err line
  | .info | .debug => .out line

/-- Buffers, and what was written, latest first. -/
structure Outlets where
  buffers : Array EventBuffer := #[]
  written : List Emission := []
  /-- Most characters of an event on the console. -/
  width : Nat := Limits.current.maxMessageLength
deriving Inhabited

namespace Outlets

def write (outlets : Outlets) (emission : Emission) : Outlets :=
  { outlets with written := emission :: outlets.written }

/-- What an event does where it arrives. -/
def deliver (event : Event) (outlets : Outlets) : Target → Outlets
  | .buffer slot => { outlets with buffers := outlets.buffers.modify slot (·.push event) }
  | .console => outlets.write (event.onConsole outlets.width)
  | .structured => outlets.write (.record event)

/-- The buffer in a slot. -/
def buffer (outlets : Outlets) (slot : Nat) : EventBuffer :=
  outlets.buffers.getD slot {}

/-- All that was written, in order. -/
def emissions (outlets : Outlets) : List Emission :=
  outlets.written.reverse

/-- The text on the standard output. -/
def standardOutput (outlets : Outlets) : String :=
  String.join (outlets.emissions.map Emission.outText)

end Outlets

/-- A sink behind a threshold. -/
structure Service where
  threshold : Level
  sink : Sink
deriving Inhabited

namespace Service

def admits (service : Service) (level : Level) : Bool :=
  service.threshold.admits level

/-- Where an event of a level arrives. -/
def targets (service : Service) (level : Level) : List Target :=
  if service.admits level then service.sink.targets level else []

/-- Delivers an event. -/
def log (service : Service) (event : Event) (outlets : Outlets) : Outlets :=
  (service.targets event.level).foldl (Outlets.deliver event) outlets

end Service

end Lineation.Diagnostics
