import Lineation.CommandLine.Options
import Lineation.Render
import Lineation.Tokenizer.File

/-!
# Runs of the program

A run sets up logging, takes the rules from a file or from a preset, and then goes through the
files in order. What a file gives is printed at once; a file that fails is counted and the next one
follows. At the end the run says how it went and prints the report.

Main definitions:
* `Host`: what a run sees of the world;
* `visit`: one file;
* `run`: the whole run.
-/

namespace Lineation.CommandLine

open Diagnostics

/-- What a run sees of the world. -/
structure Host where
  environment : Environment := {}
  limits : Limits := .current
  files : FileSystem
  /-- How long reading a file takes, in nanoseconds. -/
  readingTime : Path → Nat := fun _ => 0
  /-- How long the files take together, in milliseconds. -/
  runningTime : Nat := 0

/-- How a run ended. -/
structure Outcome where
  exitCode : Nat
  session : Session

/-- The name of the program and its version. -/
def versionText : String := "linelex 0.1.0\n"

/-- The preferences of the environment; the option asks for events as JSON as well. -/
def preferences (host : Host) (options : Options) : LoggingPreferences :=
  let chosen := LoggingPreferences.ofEnvironment host.environment
  { chosen with structured := chosen.structured || options.structuredLogs }

/-- Sets up logging. -/
def setUp (host : Host) (options : Options) : Except String Session := do
  let session : Session := { environment := host.environment, limits := host.limits }
  let session ← session.choose (preferences host options)
  session.setUp

/-- The rules of a run. -/
def rules (host : Host) (options : Options) : Reported (Except RuleSetError RuleSet) :=
  match options.config with
  | some path => RuleSet.load host.files ⟨path⟩
  | none => ⟨.ok options.presetRules, []⟩

/-- The tokens of a file as they are shown. -/
def render (options : Options) (path : Path) (stream : TokenStream) : Except StreamError String :=
  match options.format.getD .text with
  | .text => .ok (Render.text path.text stream options.headings)
  | .json => .ok (Render.json path.text stream)
  | .tokens => Render.tokens stream (if options.reverse then .backward else .forward)

/-- The event about a file without tokens. -/
def failed (error : TokenizerError) : Event :=
  (Event.error error.code "Tokenization failed").note "error" error.message

/-- What a file gives: the text to show, or what is said of the failure. -/
def tokenizeOne (host : Host) (logging : LoggingPreferences) (tokenizer : Tokenizer)
    (options : Options) (path : Path) : Reported (Except String String) := do
  match ← tokenizer.tokenizeFile host.files host.environment logging path
      (host.readingTime path) with
  | .error error =>
    report (failed error)
    return .error error.message
  | .ok stream =>
    match render options path stream with
    | .ok text => return .ok text
    | .error error => return .error error.message

/-- The state of a run between two files. -/
structure Progress where
  session : Session
  /-- The number of files that were visited. -/
  visited : Nat := 0
  failures : Nat := 0

/-- One file: its events belong to it, and its text or its failure is printed. -/
def visit (host : Host) (tokenizer : Tokenizer) (options : Options) (progress : Progress)
    (path : Path) : Progress :=
  let session := progress.session.enter ⟨path, progress.visited + 1⟩
  let (result, session) := session.take
    (tokenizeOne host session.preferences tokenizer options path)
  let session := session.leave
  match result with
  | .ok text =>
    { progress with session := session.print text, visited := progress.visited + 1 }
  | .error message =>
    { session := session.printError ("error: " ++ path.text ++ ": " ++ message ++ "\n")
      visited := progress.visited + 1
      failures := progress.failures + 1 }

/-- All files, in order. -/
def visitAll (host : Host) (tokenizer : Tokenizer) (options : Options) (session : Session) :
    Progress :=
  (options.files.map Path.mk).foldl (visit host tokenizer options) { session }

/-- The event about the end of a run. -/
def finished (files failures milliseconds : Nat) : Event :=
  if failures = 0 then
    (Event.success .runCompleted "linelex finished").notes [
      ("files", toString files),
      ("duration_ms", toString milliseconds)]
  else
    (Event.info "linelex finished").notes [
      ("files", toString files),
      ("failed", toString failures),
      ("duration_ms", toString milliseconds)]

/-- Ends a run after its files. -/
def conclude (host : Host) (options : Options) (progress : Progress) : Outcome where
  exitCode := if progress.failures > 0 then 1 else 0
  session :=
    (progress.session.log
      (finished options.files.length progress.failures host.runningTime)).printReport

/-- Ends a run that could not start. -/
def abandon (session : Session) (reason : String) : Outcome where
  exitCode := 1
  session := session.printError ("Error: " ++ reason ++ "\n")

/-- The event about the start of a run. -/
def starting (options : Options) : Event :=
  (Event.info "linelex starting").note "files" (toString options.files.length)

/-- The whole run. -/
def run (host : Host) (options : Options) : Outcome :=
  match setUp host options with
  | .error message =>
    abandon { environment := host.environment, limits := host.limits }
      (Text.quoted (Code.setupFault.text ++ ": " ++ message))
  | .ok session =>
    let session := session.log (starting options)
    match session.take (rules host options) with
    | (.error error, session) => abandon session ("Configuration(" ++ error.describe ++ ")")
    | (.ok rules, session) =>
      let tokenizer := Tokenizer.ofRuleSet rules (.ofEnvironment host.environment) host.limits
      conclude host options (visitAll host tokenizer options session)

end Lineation.CommandLine
