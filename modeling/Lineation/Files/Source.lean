import Lineation.Diagnostics.Reported
import Lineation.Files.FileError
import Lineation.Files.FileSystem
import Lineation.Files.Size
import Lineation.Text.Lines

/-!
# Source files

Reading a file goes through fixed checks: the path must name a regular file that the system resolves
and describes, the file must have an accepted size and extension, its bytes must be text, and the
text must not have too many lines. The first check that fails decides. It reports its refusal
itself; a file that is read is reported at the end.

Main definitions:
* `Checked`: a result of checks with their events;
* `Source.load`: the checks in order;
* `Source.read`: reading a file;
* `SourceFile`: what was read.
-/

namespace Lineation

open Diagnostics

/-- Accepts only these extensions. Leading points are dropped and case does not count. -/
def FilePreferences.withExtensions (preferences : FilePreferences) (extensions : List String) :
    FilePreferences :=
  { preferences with
    extensions := extensions.map fun extension => Text.toLower (Text.dropLeading '.' extension) }

/-- What is known about a regular file before it is read. -/
structure FileInfo where
  /-- The path without links, `.` and `..`. -/
  path : Path
  size : Nat
  /-- The extension in lower case. -/
  extension : Option String
deriving Repr, DecidableEq, Inhabited

namespace FileInfo

def isLarge (info : FileInfo) (limits : Limits := .current) : Bool :=
  info.size > limits.largeFileThreshold

/-- The extension in words. -/
def extensionText (info : FileInfo) : String :=
  info.extension.getD "none"

end FileInfo

/-- A file that was read. -/
structure SourceFile where
  text : String
  info : FileInfo
  lineCount : Nat
  /-- How long reading took, in nanoseconds. -/
  elapsed : Nat := 0
deriving Repr, DecidableEq, Inhabited

namespace SourceFile

def charCount (file : SourceFile) : Nat := file.text.length

def isEmpty (file : SourceFile) : Bool := file.text.isEmpty

/-- Characters read in a millisecond. -/
def rate (file : SourceFile) : Float :=
  Size.perMillisecond file.charCount file.elapsed

end SourceFile

/-- A result of checks on a file, with the events that they report. -/
abbrev Checked (α : Type) := ExceptT FileError Reported α

namespace Source

/-! ## The events about a file that is not refused -/

/-- The event that precedes the checks. -/
def started (path : Path) : Event :=
  (Event.debug "Starting file processing").note "file" path.text

/-- The event about a file that was found. -/
def found (limits : Limits) (info : FileInfo) : Event :=
  (Event.debug "File metadata collected").notes [
    ("size", Size.describe info.size),
    ("extension", info.extensionText),
    ("is_large_file", Json.boolText (info.isLarge limits))]

/-- The event about a file that was read, with times if asked for. -/
def completed (limits : Limits) (path : Path) (file : SourceFile) (timed : Bool) : Event :=
  if timed then
    (Event.success .fileRead "File read with performance metrics").notes [
      ("file", path.text),
      ("size", Size.describe file.info.size),
      ("lines", toString file.lineCount),
      ("chars", toString file.charCount),
      ("duration_ms", Decimal.ofFloat 2 (Size.milliseconds file.elapsed)),
      ("chars_per_ms", Decimal.ofFloat 2 file.rate),
      ("is_large_file", Json.boolText (file.info.isLarge limits))]
  else
    (Event.success .fileRead "File read").notes [
      ("file", path.text),
      ("size_bytes", toString file.info.size),
      ("lines", toString file.lineCount)]

/-! ## The checks -/

/-- Refuses a file for a fault of the system. The message says what was tried. -/
def refuseFault {α : Type} (path : Path) (message : String) (fault : SystemFault) : Checked α := do
  let error : FileError :=
    match fault.kind with
    | .notFound => .notFound path.text
    | .permissionDenied => .permissionDenied path.text
    | .invalidData => .encodingInvalid path.text
    | .other => .readFault (message ++ " '" ++ path.text ++ "': " ++ fault.message)
  report ((Event.error error.code message).notes [
    ("path", path.text),
    ("io_error", fault.message)])
  throw error

/-- What the system answers, or a refusal for its fault. -/
def answered {α : Type} (path : Path) (message : String) : Except SystemFault α → Checked α
  | .ok answer => pure answer
  | .error fault => refuseFault path message fault

/-- The regular file at a path. -/
def locate (files : FileSystem) (path : Path) : Checked RegularFile :=
  if path.text = "" then do
    let error := FileError.pathInvalid ""
    report (.error error.code "Empty file path provided")
    throw error
  else
    match files.entry path with
    | .missing _ => do
      let error := FileError.notFound path.text
      report ((Event.error error.code "File not found").note "path" path.text)
      throw error
    | .directory => do
      let error := FileError.pathInvalid path.text
      report ((Event.error error.code "Path is not a regular file").note "path" path.text)
      throw error
    | .regular file => pure file

/-- The path of a file without links. -/
def resolve (path : Path) (file : RegularFile) : Checked Path :=
  answered path "Failed to resolve path" file.canonical

/-- What is known about a file by its path without links. -/
def describe (limits : Limits) (canonical : Path) (file : RegularFile) : Checked FileInfo := do
  let size ← answered canonical "Failed to read file metadata" file.size
  let info : FileInfo :=
    { path := canonical, size, extension := canonical.extension?.map Text.toLower }
  report (found limits info)
  return info

/-- Whether an extension is accepted. -/
def acceptsExtension (preferences : FilePreferences) (extension : Option String) : Bool :=
  preferences.extensions.isEmpty || extension.any preferences.extensions.contains

/-- Size and extension, before anything is read. -/
def accept (limits : Limits) (preferences : FilePreferences) (path : Path) (info : FileInfo) :
    Checked Unit :=
  if info.size > limits.maxFileSize then do
    let error := FileError.tooLarge info.size limits.maxFileSize
    report ((Event.error error.code "File exceeds maximum size limit").notes [
      ("file", path.text),
      ("size", Size.describe info.size),
      ("limit", Size.describe limits.maxFileSize)])
    throw error
  else if info.size = 0 ∧ preferences.rejectEmpty = true then do
    let error := FileError.empty
    report ((Event.error error.code "File is empty").note "file" path.text)
    throw error
  else if !acceptsExtension preferences info.extension then do
    let error := FileError.extensionRefused info.extension preferences.extensions
    report ((Event.error error.code "File extension not allowed").notes [
      ("file", path.text),
      ("extension", info.extensionText),
      ("allowed", ",".intercalate preferences.extensions)])
    throw error
  else pure ()

/-- The text that some bytes encode. -/
def decode (path : Path) (bytes : ByteArray) : Checked String :=
  match Text.decodeUtf8? bytes with
  | some text => pure text
  | none => do
    let error := FileError.encodingInvalid path.text
    report ((Event.error error.code "Invalid UTF-8 encoding in file").notes [
      ("file", path.text),
      ("valid_up_to", toString (Text.wellFormedBytes bytes))])
    throw error

/-- The text of a file. -/
def readText (path canonical : Path) (file : RegularFile) : Checked String := do
  let bytes ← answered canonical "Failed to read file" file.content
  decode path bytes

/-- The number of lines of a text, if there are not too many. -/
def countLines (limits : Limits) (path : Path) (text : String) : Checked Nat :=
  let lines := Text.lineCount text
  if lines > limits.maxLineCount then do
    let error := FileError.tooManyLines lines limits.maxLineCount
    report ((Event.error error.code "File exceeds maximum line count").notes [
      ("file", path.text),
      ("lines", toString lines),
      ("max_lines", toString limits.maxLineCount)])
    throw error
  else pure lines

/-! ## Reading -/

/-- What the checks on a file give, made in order. -/
def load (files : FileSystem) (limits : Limits) (preferences : FilePreferences) (path : Path)
    (elapsed : Nat) : Checked SourceFile := do
  report (started path)
  let file ← locate files path
  let canonical ← resolve path file
  let info ← describe limits canonical file
  accept limits preferences path info
  let text ← readText path canonical file
  let lineCount ← countLines limits path text
  return { text, info, lineCount, elapsed }

/-- Reads a file. Times are reported if both preferences ask for it. -/
def read (files : FileSystem) (limits : Limits) (preferences : FilePreferences)
    (logging : LoggingPreferences) (path : Path) (elapsed : Nat) :
    Reported (Except FileError SourceFile) := ExceptT.run do
  let source ← load files limits preferences path elapsed
  report (completed limits path source (preferences.performance && logging.performance))
  return source

end Source

end Lineation
