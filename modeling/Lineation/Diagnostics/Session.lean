import Lineation.Diagnostics.Collector
import Lineation.Diagnostics.Service
import Lineation.Preferences

/-!
# Logging sessions

All that logging remembers while a program runs: the preferences that were chosen, the service
that takes events, what was collected by file, and the file that is being read.

Before a service is set up events are lost. Errors and warnings that arise while a file is being
read are collected for that file, whatever the thresholds.

Main definitions:
* `Session.choose`, `Session.install`, `Session.setUp`: what can be done once;
* `Session.enter`, `Session.leave`: the file that is being read;
* `Session.log`: an event.
-/

namespace Lineation.Diagnostics

/-- The file that is being read, and its number. -/
structure FileContext where
  path : Path
  id : Nat
deriving Repr, DecidableEq, Inhabited

/-- All that logging remembers. -/
structure Session where
  environment : Environment := {}
  limits : Limits := .current
  chosen : Option LoggingPreferences := none
  service : Option Service := none
  collector : Option Collector := none
  context : Option FileContext := none
  outlets : Outlets := {}
deriving Inhabited

namespace Session

/-- The preferences in force: those chosen, or else those of the environment. -/
def preferences (session : Session) : LoggingPreferences :=
  session.chosen.getD (.ofEnvironment session.environment)

def isSetUp (session : Session) : Bool :=
  session.service.isSome && session.collector.isSome

/-- Whether events of a level get past the service. -/
def admits (session : Session) (level : Level) : Bool :=
  session.service.any (·.admits level)

/-! ## Setting up -/

/-- Chooses preferences. Only the first choice counts. -/
def choose (session : Session) (preferences : LoggingPreferences) : Except String Session :=
  if session.chosen.isSome then .error "Runtime preferences already initialized"
  else .ok { session with chosen := some preferences }

/-- Puts a service in place, with an empty collector and a console within the limits. Only the first
one stays. -/
def install (session : Session) (service : Service) : Except String Session :=
  if session.service.isSome then .error "Global logger already initialized"
  else if session.collector.isSome then .error "Global error collector already initialized"
  else
    .ok { session with
      service := some service
      collector := some { limit := session.limits.maxEventsPerFile }
      outlets := { session.outlets with width := session.limits.maxMessageLength } }

/-- The service that the preferences ask for. -/
def configuredService (preferences : LoggingPreferences) : Service :=
  let level := preferences.threshold
  let sinks : List Sink :=
    if !preferences.console then []
    else if preferences.structured then [.structured level]
    else [.console level]
  ⟨level, .fanOut level sinks⟩

/-- What is wrong with limits for logging, if anything. -/
def limitsFault? (limits : Limits) : Option String :=
  if limits.logBufferSize = 0 then some "Log buffer size must be positive"
  else if limits.maxEventsPerFile > limits.logBufferSize then
    some "Max log events per file exceeds total buffer size"
  else if limits.maxMessageLength < 80 then
    some s!"Max log message length too small: {limits.maxMessageLength}"
  else none

/-! ## Events -/

/-- Hands an event to the service as it is. -/
def dispatch (session : Session) (event : Event) : Session :=
  match session.service with
  | some service => { session with outlets := service.log event session.outlets }
  | none => session

/-- Collects an event for the file that is being read. -/
def collect (session : Session) (event : Event) : Session :=
  match session.context with
  | some context =>
    { session with collector := session.collector.map (·.record context.path event) }
  | none => session

/-- An event with the file that is being read, if that is wanted. -/
def located (session : Session) (event : Event) : Event :=
  match session.preferences.fileContext, session.context with
  | true, some context =>
    event.notes [("file", context.path.text), ("file_id", toString context.id)]
  | _, _ => event

/-- Logs an event. -/
def log (session : Session) (event : Event) : Session :=
  let event := session.located event
  let session := if event.isError || event.isWarning then session.collect event else session
  session.dispatch event

def logAll (session : Session) (events : List Event) : Session :=
  events.foldl log session

/-- Writes text to the standard output. -/
def print (session : Session) (text : String) : Session :=
  { session with outlets := session.outlets.write (.out text) }

/-- Writes text to the standard error output. -/
def printError (session : Session) (text : String) : Session :=
  { session with outlets := session.outlets.write (.err text) }

/-- Logs an error without the file; if nothing is set up it goes to the error output. -/
def logAnyway (session : Session) (code : Code) (message : String) : Session :=
  if session.service.isSome then session.dispatch (.error code message)
  else session.printError ((Event.error code message).render ++ "\n")

/-- Sets up logging by the preferences, and says so. -/
def setUp (session : Session) : Except String Session :=
  match limitsFault? session.limits with
  | some fault => .error ("Configuration validation failed: " ++ fault)
  | none =>
    match session.install (configuredService session.preferences) with
    | .error e => .error e
    | .ok session =>
      .ok (session.dispatch (.success .loggingReady "Global logging system initialized"))

/-! ## Files -/

/-- Starts on a file. -/
def enter (session : Session) (context : FileContext) : Session :=
  { session with
    collector := session.collector.map (·.register context.path)
    context := some context }

/-- Ends with the file. -/
def leave (session : Session) : Session :=
  { session with context := none }

/-- The errors that were collected for a file. -/
def fileErrors (session : Session) (path : Path) : Array Event :=
  (session.collector.map (·.errors path)).getD #[]

def summary (session : Session) : Summary :=
  (session.collector.map Collector.summary).getD {}

/-- Prints the report, if it is wanted. -/
def printReport (session : Session) : Session :=
  if session.preferences.report then
    match session.collector with
    | some collector => session.printError collector.report
    | none => session
  else session

/-! ## Texts about logging -/

/-- Limits and preferences in words. -/
def configurationText (session : Session) : String :=
  let limits := session.limits
  let preferences := session.preferences
  "\n".intercalate [
    "Logging Configuration:",
    "- Profile: " ++ Limits.profile,
    "- Log buffer size: " ++ toString limits.logBufferSize,
    "- Max events per file: " ++ toString limits.maxEventsPerFile,
    "- Max message length: " ++ toString limits.maxMessageLength,
    "- Min log level: " ++ preferences.threshold.label,
    "- Structured logging: " ++ Json.boolText preferences.structured,
    "- Console logging: " ++ Json.boolText preferences.console,
    "- Performance events: " ++ Json.boolText preferences.performance,
    "- Cargo-style output: " ++ Json.boolText preferences.report,
    "- Include file context: " ++ Json.boolText preferences.fileContext]

/-- The state of logging in words. -/
def diagnosticsText (session : Session) : String :=
  let counts := match session.collector with
    | some collector =>
      let summary := collector.summary
      s!"Files processed: {summary.files}\n" ++ s!"Total errors: {summary.errors}\n" ++
        s!"Total warnings: {summary.warnings}\n"
    | none => ""
  "=== Logging System Diagnostics ===\n" ++
    "Initialized: " ++ Json.boolText session.isSetUp ++ "\n" ++ counts ++ "\n" ++
    session.configurationText

end Session

end Lineation.Diagnostics
