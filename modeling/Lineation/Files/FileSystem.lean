import Lineation.Files.Path
import Lineation.Text.Utf8

/-!
# File systems

What a program can learn about files: what stands at a path, and of a regular file its path without
links, its size and its bytes, each of them or the reason why the system does not tell it. A file
system does not change while it is looked at.

Main definitions:
* `Entry`: what stands at a path;
* `FileSystem.readText`: the whole file as text.
-/

namespace Lineation

/-- The kinds of fault that are told apart. -/
inductive FaultKind where
  | notFound
  | permissionDenied
  /-- The bytes are not what they should be. -/
  | invalidData
  | other
deriving Repr, DecidableEq, Inhabited

/-- Why the system refuses something. -/
structure SystemFault where
  kind : FaultKind
  message : String
deriving Repr, DecidableEq, Inhabited

namespace SystemFault

/-- A fault that the system reports by a number. -/
def numbered (kind : FaultKind) (name : String) (number : Nat) : SystemFault :=
  ⟨kind, name ++ " (os error " ++ toString number ++ ")"⟩

def notFound : SystemFault := numbered .notFound "No such file or directory" 2
def inputOutput : SystemFault := numbered .other "Input/output error" 5
def permissionDenied : SystemFault := numbered .permissionDenied "Permission denied" 13
def notDirectory : SystemFault := numbered .other "Not a directory" 20
def isDirectory : SystemFault := numbered .other "Is a directory" 21
def nameTooLong : SystemFault := numbered .other "File name too long" 36
def tooManyLinks : SystemFault := numbered .other "Too many levels of symbolic links" 40

/-- A path with a zero character names nothing. -/
def zeroInName : SystemFault := ⟨.other, "file name contained an unexpected NUL byte"⟩

/-- The bytes of a file are not text. -/
def notText : SystemFault := ⟨.invalidData, "stream did not contain valid UTF-8"⟩

end SystemFault

/-- A regular file: what the system answers when it is asked about it. -/
structure RegularFile where
  /-- The path without links, `.` and `..`. -/
  canonical : Except SystemFault Path
  size : Except SystemFault Nat
  content : Except SystemFault ByteArray

/-- What stands at a path. -/
inductive Entry where
  /-- Nothing can be reached there. -/
  | missing (fault : SystemFault)
  | directory
  | regular (file : RegularFile)

/-- What stands at each path. -/
structure FileSystem where
  entry : Path → Entry

namespace FileSystem

/-- The bytes at a path. -/
def readBytes (files : FileSystem) (path : Path) : Except SystemFault ByteArray :=
  match files.entry path with
  | .missing fault => .error fault
  | .directory => .error .isDirectory
  | .regular file => file.content

/-- The whole file at a path as text. -/
def readText (files : FileSystem) (path : Path) : Except SystemFault String :=
  match files.readBytes path with
  | .error fault => .error fault
  | .ok bytes =>
    match Text.decodeUtf8? bytes with
    | some text => .ok text
    | none => .error .notText

/-- Whether something stands at the path. -/
def pathExists (files : FileSystem) (path : Path) : Bool :=
  match files.entry path with
  | .missing _ => false
  | _ => true

end FileSystem

end Lineation
