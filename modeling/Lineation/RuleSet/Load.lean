import Lineation.Diagnostics.Reported
import Lineation.Files.FileSystem
import Lineation.RuleSet.Toml
import Lineation.Text.Quoted

/-!
# Loading rule sets

A rule set is read from a text or from a file. A failure is reported by one error event; a file
that could be read and understood is reported by one event.

Main definitions:
* `RuleSetError`: why there is no rule set;
* `RuleSet.parse`, `RuleSet.load`: from a text, and from a file.
-/

namespace Lineation

open Diagnostics

/-- Why there is no rule set. -/
inductive RuleSetError where
  | unreadable (path : String) (reason : String)
  | invalid (reason : String)
deriving Repr, DecidableEq, Inhabited

namespace RuleSetError

def code : RuleSetError → Code
  | unreadable _ _ => .rulesUnreadable
  | invalid _ => .rulesInvalid

def message : RuleSetError → String
  | unreadable path reason => "Cannot read tokenizer configuration '" ++ path ++ "': " ++ reason
  | invalid reason => "Invalid tokenizer configuration: " ++ reason

/-- The error with its parts named and quoted. -/
def describe : RuleSetError → String
  | unreadable path reason =>
    "Io \x7b path: " ++ Text.quoted path ++ ", message: " ++ Text.quoted reason ++ " \x7d"
  | invalid reason => "Parse \x7b message: " ++ Text.quoted reason ++ " \x7d"

end RuleSetError

namespace RuleSet

/-- The rule set that a text holds. -/
def parse (text : String) : Reported (Except RuleSetError RuleSet) :=
  match ofToml text with
  | .ok rules => ⟨.ok rules, []⟩
  | .error invalid =>
    ⟨.error (.invalid invalid.message),
      [(Event.error .rulesInvalid "Tokenizer configuration could not be parsed").note
        "reason" invalid.message]⟩

/-- The event about a rule set that was loaded. -/
def loaded (path : Path) (rules : RuleSet) : Event :=
  (Event.success .rulesLoaded "Tokenizer configuration loaded").notes [
    ("path", path.text),
    ("rules", toString rules.regions.length)]

/-- The rule set that a file holds. -/
def load (files : FileSystem) (path : Path) : Reported (Except RuleSetError RuleSet) :=
  match files.readText path with
  | .error fault =>
    ⟨.error (.unreadable path.text fault.message),
      [(Event.error .rulesUnreadable "Tokenizer configuration could not be read").notes [
        ("path", path.text),
        ("reason", fault.message)]]⟩
  | .ok text =>
    match parse text with
    | ⟨.ok rules, events⟩ => ⟨.ok rules, events ++ [loaded path rules]⟩
    | ⟨.error e, events⟩ => ⟨.error e, events⟩

end RuleSet

end Lineation
