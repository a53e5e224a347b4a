import Lineation.Diagnostics.Code
import Lineation.Diagnostics.Level
import Lineation.Time.Stamp
import Lineation.Json

/-!
# Events

A diagnostic event: a level, a code, a message, the line of the text it speaks of, and named
values in the order of their names. An event has no time of its own; it is stamped when it is
written as JSON.

Main definitions:
* `Context.insert`: sets a named value, replacing an earlier one;
* `Event.render`: the event on one line;
* `Event.detailed`: the event with what is known about its code;
* `Event.toJson`: the event as a JSON object.
-/

namespace Lineation.Diagnostics

/-- Named values, in the order of their names, each name once. -/
abbrev Context := List (String × String)

/-- Sets a named value, replacing an earlier one. -/
def Context.insert (context : Context) (name value : String) : Context :=
  match context with
  | [] => [(name, value)]
  | (other, old) :: rest =>
    if name = other then (name, value) :: rest
    else if name < other then (name, value) :: (other, old) :: rest
    else (other, old) :: Context.insert rest name value

theorem Context.lookup_cons (context : Context) (name value key : String) :
    List.lookup key ((name, value) :: context) =
      if key = name then some value else context.lookup key := by
  by_cases hKey : key = name
  · simp [hKey]
  · have hNe : (key == name) = false := beq_eq_false_iff_ne.mpr hKey
    simp [List.lookup_cons, hKey, hNe]

theorem Context.lookup_insert (context : Context) (name value key : String) :
    (context.insert name value).lookup key =
      if key = name then some value else context.lookup key := by
  induction context with
  | nil => rw [insert, Context.lookup_cons]
  | cons entry rest ih =>
    unfold insert
    split
    · rename_i hSame
      rw [Context.lookup_cons, Context.lookup_cons, hSame]
      split <;> rfl
    · rename_i hOther
      split
      · rw [Context.lookup_cons]
      · rw [Context.lookup_cons, ih, Context.lookup_cons]
        split
        · rename_i hKey
          rw [if_neg fun hName => hOther (hName.symm.trans hKey)]
        · rfl

/-- A diagnostic event. -/
structure Event where
  level : Level
  code : Code
  message : String
  line : Option Nat := none
  context : Context := []
deriving Repr, DecidableEq, Inhabited

namespace Event

/-! ## Making events -/

def error (code : Code) (message : String) : Event := { level := .error, code, message }

def warning (code : Code) (message : String) : Event := { level := .warning, code, message }

/-- An event that reports success under a code. -/
def success (code : Code) (message : String) : Event := { level := .info, code, message }

def info (message : String) : Event := { level := .info, code := .plainInfo, message }

def debug (message : String) : Event := { level := .debug, code := .plainDebug, message }

def withLine (event : Event) (line : Nat) : Event := { event with line := some line }

/-- Sets one named value. -/
def note (event : Event) (name value : String) : Event :=
  { event with context := event.context.insert name value }

/-- Sets named values in order, so the last of a name stays. -/
def notes (event : Event) (pairs : List (String × String)) : Event :=
  pairs.foldl (fun event (name, value) => event.note name value) event

@[simp]
theorem level_notes (event : Event) (pairs : List (String × String)) :
    (event.notes pairs).level = event.level := by
  induction pairs generalizing event with
  | nil => rfl
  | cons pair rest ih => exact ih (event.note pair.1 pair.2)

@[simp]
theorem code_notes (event : Event) (pairs : List (String × String)) :
    (event.notes pairs).code = event.code := by
  induction pairs generalizing event with
  | nil => rfl
  | cons pair rest ih => exact ih (event.note pair.1 pair.2)

/-- Of the values of a name the last one stays. -/
theorem lookup_context_notes (event : Event) (pairs : List (String × String)) (key : String) :
    (event.notes pairs).context.lookup key =
      (pairs.reverse.lookup key).or (event.context.lookup key) := by
  induction pairs generalizing event with
  | nil => rfl
  | cons pair rest ih =>
    have hNote : (event.notes (pair :: rest)) = (event.note pair.1 pair.2).notes rest := rfl
    rw [hNote, ih, List.reverse_cons, List.lookup_append, Option.or_assoc, Event.note,
      Context.lookup_insert, Context.lookup_cons]
    split <;> rfl

def isError (event : Event) : Bool := event.level == .error

def isWarning (event : Event) : Bool := event.level == .warning

def isInfo (event : Event) : Bool := event.level == .info

def isDebug (event : Event) : Bool := event.level == .debug

/-- What is known about the code of the event. -/
def classification (event : Event) : Classification := event.code.classification

/-! ## Written forms -/

/-- Level, code, message and line on one line. -/
def render (event : Event) : String :=
  let place := match event.line with
    | some line => s!" (line {line})"
    | none => ""
  "[" ++ event.level.label ++ "] " ++ event.code.text ++ " - " ++ event.message ++ place

/-- The event over several lines, with what is known about its code and its named values. -/
def detailed (event : Event) : String :=
  let known := event.classification
  let fate :=
    if event.isError then
      ["  Recoverable: " ++ Json.boolText known.recoverable,
        "  Requires halt: " ++ Json.boolText known.halts]
    else []
  let listed :=
    if event.code.isListed then
      ["  Description: " ++ known.description, "  Recommended action: " ++ known.action]
    else []
  let named :=
    if event.context.isEmpty then []
    else "  Context:" :: event.context.map fun (name, value) => "    " ++ name ++ ": " ++ value
  "\n".intercalate
    ([event.render, "  Category: " ++ known.category, "  Severity: " ++ known.severity.label] ++
      fate ++ listed ++ named)

/-- The event as an object with its members in the order of their names. -/
def toJson (event : Event) (stamp : Stamp) : Json :=
  let known := event.classification
  let context :=
    if event.context.isEmpty then []
    else [("context", Json.object (event.context.map fun (name, value) => (name, .string value)))]
  let fate :=
    if event.isError then
      [("error_metadata", Json.object [
        ("description", .string known.description),
        ("recommended_action", .string known.action),
        ("recoverable", .bool known.recoverable),
        ("requires_halt", .bool known.halts)])]
    else []
  let line := match event.line with
    | some line => [("line", Json.number line)]
    | none => []
  .object
    ([("category", .string known.category), ("code", .string event.code.text)] ++ context ++ fate ++
      [("level", .string event.level.label)] ++ line ++
      [("message", .string event.message), ("severity", .string known.severity.label),
        ("timestamp", .string stamp.render)])

end Event

end Lineation.Diagnostics
