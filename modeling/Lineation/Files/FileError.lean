import Lineation.Diagnostics.Code
import Lineation.Text.Quoted

/-!
# Reasons to refuse a file

Each reason has a code and a wording of its own.
-/

namespace Lineation

open Diagnostics

/-- Why a file is not read. -/
inductive FileError where
  | notFound (path : String)
  | extensionRefused (extension : Option String) (allowed : List String)
  | tooLarge (size limit : Nat)
  | empty
  | permissionDenied (path : String)
  | encodingInvalid (path : String)
  | readFault (message : String)
  /-- The path is empty or names no regular file. -/
  | pathInvalid (path : String)
  | tooManyLines (lines limit : Nat)
deriving Repr, DecidableEq, Inhabited

namespace FileError

def code : FileError → Code
  | notFound _ => .fileNotFound
  | extensionRefused _ _ => .extensionRefused
  | tooLarge _ _ => .fileTooLarge
  | empty => .fileEmpty
  | permissionDenied _ => .permissionDenied
  | encodingInvalid _ => .encodingInvalid
  | readFault _ => .readFault
  | pathInvalid _ => .pathInvalid
  | tooManyLines _ _ => .tooManyLines

/-- An extension as it is shown: quoted, if there is one. -/
def extensionText : Option String → String
  | some extension => "Some(" ++ Text.quoted extension ++ ")"
  | none => "None"

def message : FileError → String
  | notFound path => "File not found: " ++ path
  | extensionRefused extension allowed =>
    "Invalid file extension " ++ extensionText extension ++ ", expected one of: " ++
      ", ".intercalate allowed
  | tooLarge size limit => s!"File too large: {size} bytes (max: {limit})"
  | empty => "File is empty"
  | permissionDenied path => "Permission denied: " ++ path
  | encodingInvalid path => "Invalid UTF-8 encoding in file: " ++ path
  | readFault message => "I/O error reading file: " ++ message
  | pathInvalid path => "Invalid file path: " ++ path
  | tooManyLines lines limit => s!"File exceeds maximum line count: {lines} (max: {limit})"

end FileError

end Lineation
