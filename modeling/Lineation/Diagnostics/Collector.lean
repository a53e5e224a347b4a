import Lineation.Diagnostics.Event
import Lineation.Files.Path
import Lineation.Limits

/-!
# Collecting events by file

A collector keeps the events of each file, up to a limit, in the order of the paths. Past the
limit one warning stands for all that follow.

Main definitions:
* `Collector.register`, `Collector.record`: a file that is read, and an event of a file;
* `Collector.summary`: how many files went well;
* `Collector.report`: errors and warnings by file, for people.
-/

namespace Lineation.Diagnostics

/-- Events by file, in the order of the paths. -/
structure Collector where
  files : List (Path × Array Event) := []
  /-- Most events that are collected for one file. -/
  limit : Nat := Limits.current.maxEventsPerFile
deriving Inhabited

/-- How many files went well, and what was collected. -/
structure Summary where
  files : Nat := 0
  successful : Nat := 0
  failed : Nat := 0
  withWarnings : Nat := 0
  errors : Nat := 0
  warnings : Nat := 0
deriving Repr, DecidableEq, Inhabited

namespace Summary

/-- The part of the files that went well. -/
def successRate (summary : Summary) : Float :=
  if summary.files = 0 then 0.0 else summary.successful.toFloat / summary.files.toFloat

def hasErrors (summary : Summary) : Bool := summary.errors > 0

def hasWarnings (summary : Summary) : Bool := summary.warnings > 0

/-- Takes up the events of one more file. -/
def add (summary : Summary) (events : Array Event) : Summary :=
  let errors := events.countP Event.isError
  let warnings := events.countP Event.isWarning
  let failed := errors > 0
  { files := summary.files + 1
    successful := if failed then summary.successful else summary.successful + 1
    failed := if failed then summary.failed + 1 else summary.failed
    withWarnings :=
      if !failed && warnings > 0 then summary.withWarnings + 1 else summary.withWarnings
    errors := summary.errors + errors
    warnings := summary.warnings + warnings }

end Summary

namespace Collector

/-- Changes the events of a path, which has none before it is first met. The first spelling of a
path stays. -/
def updateIn (path : Path) (f : Array Event → Array Event) :
    List (Path × Array Event) → List (Path × Array Event)
  | [] => [(path, f #[])]
  | (other, events) :: rest =>
    match path.compare other with
    | .eq => (other, f events) :: rest
    | .lt => (path, f #[]) :: (other, events) :: rest
    | .gt => (other, events) :: updateIn path f rest

def update (collector : Collector) (path : Path) (f : Array Event → Array Event) : Collector :=
  { collector with files := updateIn path f collector.files }

/-- Takes note of a file, so that it counts even without events. -/
def register (collector : Collector) (path : Path) : Collector :=
  collector.update path id

/-- Forgets all files and their events. -/
def clear (collector : Collector) : Collector :=
  { collector with files := [] }

/-- The warning that stands for all events past the limit. -/
def overflow (limit : Nat) : Event :=
  .warning .plainWarning s!"Too many events for file (limit: {limit})"

/-- Adds an event to those of a file, within the limit. -/
def addEvent (limit : Nat) (event : Event) (events : Array Event) : Array Event :=
  if events.size < limit then events.push event
  else if events.size = limit then events.push (overflow limit)
  else events

/-- Keeps an event of a file. -/
def record (collector : Collector) (path : Path) (event : Event) : Collector :=
  collector.update path (addEvent collector.limit event)

/-- The events of a file. -/
def events (collector : Collector) (path : Path) : Array Event :=
  match collector.files.find? fun (other, _) => path.compare other == .eq with
  | some (_, events) => events
  | none => #[]

/-- The errors of a file. -/
def errors (collector : Collector) (path : Path) : Array Event :=
  (collector.events path).filter Event.isError

def hasErrors (collector : Collector) (path : Path) : Bool :=
  (collector.events path).any Event.isError

/-- The number of events of all files. -/
def total (collector : Collector) : Nat :=
  collector.files.foldl (fun count (_, events) => count + events.size) 0

def summary (collector : Collector) : Summary :=
  collector.files.foldl (fun summary (_, events) => summary.add events) {}

/-! ## The report -/

/-- The lines about one event of a file. -/
def reportEvent (path : Path) (event : Event) : String :=
  let known := event.classification
  let kind := if event.isError then "error" else "warning"
  let place := match event.line with
    | some line => path.text ++ ":" ++ toString line
    | none => path.text
  let grade :=
    if event.isError then
      "  = severity: " ++ known.severity.label ++ ", category: " ++ known.category ++ "\n"
    else ""
  let named := event.context.filter fun (name, _) => name != "file" && name != "file_id"
  let help := if event.isError then "  = help: " ++ known.action ++ "\n" else ""
  kind ++ "[" ++ event.code.text ++ "]: " ++ event.message ++ "\n  --> " ++ place ++ "\n" ++ grade ++
    String.join (named.map fun (name, value) => "  = " ++ name ++ ": " ++ value ++ "\n") ++ help

/-- The lines about one file; none if it has neither errors nor warnings. -/
def reportFile (path : Path) (events : Array Event) : String :=
  let shown := events.toList.filter fun event => event.isError || event.isWarning
  if shown.isEmpty then ""
  else
    "Checking " ++ path.text ++ "...\n" ++ String.join (shown.map (reportEvent path)) ++ "\n"

/-- Errors and warnings by file, and the summary. -/
def report (collector : Collector) : String :=
  let summary := collector.summary
  let warnings :=
    if summary.warnings > 0 then ", " ++ toString summary.warnings ++ " warning(s)" else ""
  String.join (collector.files.map fun (path, events) => reportFile path events) ++
    s!"Processed {summary.files} file(s): {summary.successful} ok, {summary.failed} failed" ++
    warnings ++ "\n"

end Collector

end Lineation.Diagnostics
