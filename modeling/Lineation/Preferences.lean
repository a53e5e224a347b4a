import Lineation.Diagnostics.Level
import Lineation.Environment
import Lineation.Json
import Lineation.Text.Blank
import Lineation.Text.Lowercase
import Lineation.Text.Split
import Lineation.Tokenizer.Basic

/-!
# Preferences

What a user chooses by environment variables: which files are read, what a tokenizer observes, and
what is logged.

Main definitions:
* `FilePreferences`, `LexicalPreferences`, `LoggingPreferences`: the three groups;
* `Preferences.ofEnvironment`: the choices that the variables make.
-/

namespace Lineation

open Diagnostics

/-- The level that a word or a number names, in any case. -/
def Diagnostics.Level.parse? (text : String) : Option Level :=
  match Text.toLower text with
  | "error" | "0" => some .error
  | "warning" | "warn" | "1" => some .warning
  | "info" | "2" => some .info
  | "debug" | "3" => some .debug
  | _ => none

/-- The name of a level among the preferences. -/
def Diagnostics.Level.name : Level → String
  | .error => "Error"
  | .warning => "Warning"
  | .info => "Info"
  | .debug => "Debug"

/-! ## Files -/

/-- Which files are read. -/
structure FilePreferences where
  /-- Accepted extensions in lower case; none listed accepts every file. -/
  extensions : List String := []
  /-- Report sizes and times of the files that were read. -/
  performance : Bool := true
  rejectEmpty : Bool := false
deriving Repr, DecidableEq, Inhabited

/-- Extensions between commas: blanks and leading points are dropped, and so are empty ones. -/
def parseExtensions (text : String) : List String :=
  let normal (part : String) := Text.toLower (Text.dropLeading '.' (Text.trim part))
  ((Text.split ',' text).map normal).filter (· != "")

def FilePreferences.ofEnvironment (environment : Environment) : FilePreferences where
  extensions := ((environment.get? "LINELEX_ALLOWED_EXTENSIONS").map parseExtensions).getD []
  performance := environment.flag "LINELEX_ENABLE_PERFORMANCE_LOGGING" true
  rejectEmpty := environment.flag "LINELEX_REJECT_EMPTY_FILES" false

/-! ## Tokenizers -/

def LexicalPreferences.ofEnvironment (environment : Environment) : LexicalPreferences where
  detailedMetrics := environment.flag "LINELEX_LEXICAL_DETAILED_METRICS" true
  trackRules := environment.flag "LINELEX_LEXICAL_TRACK_RULE_USAGE" false
  warnUnterminated := environment.flag "LINELEX_LEXICAL_WARN_UNTERMINATED" true
  warnThresholds := environment.flag "LINELEX_LEXICAL_WARN_THRESHOLDS" true

/-! ## Logging -/

/-- What is logged, and how. -/
structure LoggingPreferences where
  /-- Write events as JSON. -/
  structured : Bool := false
  /-- Write events at all. -/
  console : Bool := true
  threshold : Level := .warning
  /-- Report sizes and times. -/
  performance : Bool := true
  /-- Print a report of errors and warnings by file at the end. -/
  report : Bool := true
  /-- Name the file that is being read in each event. -/
  fileContext : Bool := true
deriving Repr, DecidableEq, Inhabited

namespace LoggingPreferences

def ofEnvironment (environment : Environment) : LoggingPreferences where
  structured := environment.flag "LINELEX_LOGGING_USE_STRUCTURED" false
  console := environment.flag "LINELEX_LOGGING_ENABLE_CONSOLE" true
  threshold := ((environment.get? "LINELEX_LOGGING_MIN_LEVEL").bind Level.parse?).getD .warning
  performance := environment.flag "LINELEX_LOGGING_LOG_PERFORMANCE" true
  report := environment.flag "LINELEX_LOGGING_CARGO_STYLE" true
  fileContext := environment.flag "LINELEX_LOGGING_INCLUDE_FILE_CONTEXT" true

/-- Everything, to be read by people. -/
def development : LoggingPreferences := { threshold := .debug }

/-- Warnings and errors, to be read by programs. -/
def production : LoggingPreferences := { structured := true, performance := false, report := false }

def toJson (p : LoggingPreferences) : Json :=
  .object [
    ("use_structured_logging", .bool p.structured),
    ("enable_console_logging", .bool p.console),
    ("min_log_level", .string p.threshold.name),
    ("log_performance_events", .bool p.performance),
    ("enable_cargo_style_output", .bool p.report),
    ("include_file_context", .bool p.fileContext)]

end LoggingPreferences

def FilePreferences.toJson (p : FilePreferences) : Json :=
  .object [
    ("allowed_extensions", .array (p.extensions.map .string)),
    ("enable_performance_logging", .bool p.performance),
    ("reject_empty_files", .bool p.rejectEmpty)]

def LexicalPreferences.toJson (p : LexicalPreferences) : Json :=
  .object [
    ("collect_detailed_metrics", .bool p.detailedMetrics),
    ("track_rule_usage", .bool p.trackRules),
    ("warn_on_unterminated_region", .bool p.warnUnterminated),
    ("warn_on_thresholds", .bool p.warnThresholds)]

/-! ## All of them -/

/-- The choices of a user. -/
structure Preferences where
  files : FilePreferences := {}
  lexical : LexicalPreferences := {}
  logging : LoggingPreferences := {}
deriving Repr, DecidableEq, Inhabited

/-- The variables that choices are read from. -/
def Preferences.variableNames : List String := [
  "LINELEX_ALLOWED_EXTENSIONS",
  "LINELEX_ENABLE_PERFORMANCE_LOGGING",
  "LINELEX_REJECT_EMPTY_FILES",
  "LINELEX_LEXICAL_DETAILED_METRICS",
  "LINELEX_LEXICAL_TRACK_RULE_USAGE",
  "LINELEX_LEXICAL_WARN_UNTERMINATED",
  "LINELEX_LEXICAL_WARN_THRESHOLDS",
  "LINELEX_LOGGING_USE_STRUCTURED",
  "LINELEX_LOGGING_ENABLE_CONSOLE",
  "LINELEX_LOGGING_MIN_LEVEL",
  "LINELEX_LOGGING_LOG_PERFORMANCE",
  "LINELEX_LOGGING_CARGO_STYLE",
  "LINELEX_LOGGING_INCLUDE_FILE_CONTEXT"]

def Preferences.ofEnvironment (environment : Environment) : Preferences where
  files := .ofEnvironment environment
  lexical := .ofEnvironment environment
  logging := .ofEnvironment environment

def Preferences.toJson (p : Preferences) : Json :=
  .object [
    ("file_processor", p.files.toJson),
    ("lexical", p.lexical.toJson),
    ("logging", p.logging.toJson)]

end Lineation
