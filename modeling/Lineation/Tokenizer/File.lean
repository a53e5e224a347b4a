import Lineation.Files.Source
import Lineation.RuleSet.Load
import Lineation.Tokenizer.Run
import Lineation.TokenStream.Basic

/-!
# Tokenizing files

A file is read by the preferences of the environment, and its text is split. If it cannot be read,
the reason is kept together with the path.

Main definitions:
* `TokenizerError`: why there are no tokens;
* `Tokenizer.tokenizeFile`: the tokens of a file.
-/

namespace Lineation

open Diagnostics

/-- Why there are no tokens. -/
inductive TokenizerError where
  | sourceUnavailable (path : String) (cause : FileError)
  | rules (cause : RuleSetError)
deriving Repr, DecidableEq, Inhabited

namespace TokenizerError

def code : TokenizerError → Code
  | sourceUnavailable _ _ => .sourceUnavailable
  | rules cause => cause.code

def message : TokenizerError → String
  | sourceUnavailable path cause => "Source '" ++ path ++ "' is unavailable: " ++ cause.message
  | rules cause => cause.message

end TokenizerError

namespace Tokenizer

/-- The event that precedes the tokenization of a file. -/
def fileStarted (source : SourceFile) : Event :=
  (Event.debug "Tokenizing file").notes [
    ("file", source.info.path.text),
    ("lines", toString source.lineCount)]

/-- The tokens of a file that was read. -/
def tokenizeSource (t : Tokenizer) (source : SourceFile) : Reported TokenStream :=
  let run := t.tokenize source.text
  ⟨.ofRecords run.records, fileStarted source :: run.events⟩

/-- The tokens of a file, which is read within the limits of the tokenizer and by the preferences of
the environment. -/
def tokenizeFile (t : Tokenizer) (files : FileSystem) (environment : Environment)
    (logging : LoggingPreferences) (path : Path) (elapsed : Nat) :
    Reported (Except TokenizerError TokenStream) := do
  match ← Source.read files t.limits (.ofEnvironment environment) logging path elapsed with
  | .error cause => return .error (.sourceUnavailable path.text cause)
  | .ok source => return .ok (← t.tokenizeSource source)

end Tokenizer

end Lineation
