import Lineation.Files.FileSystem

/-!
# Directory trees

A file system kept in memory: files, directories and symbolic links by their place. Paths are
followed one part at a time; a link is replaced by its target, and only so many links may be met
on the way.

Main definitions:
* `Tree.walk`: where a path leads;
* `Tree.toFileSystem`: the file system of a tree, seen from a directory.
-/

namespace Lineation

/-- The names from the top of a tree down to a place in it. -/
abbrev Place := List String

/-- What a tree holds at a place. -/
inductive Node where
  | directory
  | file (size : Nat) (content : Except SystemFault ByteArray)
  /-- A link; its target is relative to the directory that holds the link. -/
  | link (target : String)

/-- Nodes with their places, latest first. -/
structure Tree where
  nodes : List (Place × Node) := []

/-- Where a path leads. -/
inductive Destination where
  | directory
  | file (place : Place) (size : Nat) (content : Except SystemFault ByteArray)

namespace Tree

/-- Most links that may be met on the way. -/
def maxLinks : Nat := 40

/-- Longest name of a file in bytes. -/
def maxNameBytes : Nat := 255

/-- Longest path in bytes, as it is written. -/
def maxPathBytes : Nat := 4095

/-- Puts a node at a place. -/
def insert (tree : Tree) (place : Place) (node : Node) : Tree :=
  ⟨(place, node) :: tree.nodes⟩

/-- The node at a place. Whatever has something below it is a directory. -/
def node? (tree : Tree) (place : Place) : Option Node :=
  match tree.nodes.find? fun (other, _) => other == place with
  | some (_, node) => some node
  | none =>
    if place.isEmpty || tree.nodes.any fun (other, _) => place.isPrefixOf other then
      some .directory
    else none

/-- The parts of a path, and whether it starts at the top. -/
def parts (path : String) : Bool × List String :=
  match Text.split '/' path with
  | "" :: rest => (true, rest)
  | all => (false, all)

/-- Follows the parts of a path from a directory, given how links are followed. Only a directory has
parts below it, be they empty. -/
def descend (tree : Tree) (follow : Place → List String → Except SystemFault Destination)
    (here : Place) : List String → Except SystemFault Destination
  | [] => .ok .directory
  | name :: rest =>
    if name = "" ∨ name = "." then tree.descend follow here rest
    else if name = ".." then tree.descend follow here.dropLast rest
    else if name.utf8ByteSize > maxNameBytes then .error .nameTooLong
    else
      match tree.node? (here ++ [name]) with
      | none => .error .notFound
      | some .directory => tree.descend follow (here ++ [name]) rest
      | some (.file size content) =>
        if rest.isEmpty then .ok (.file (here ++ [name]) size content) else .error .notDirectory
      | some (.link target) =>
        let (fromTop, way) := parts target
        follow (if fromTop then [] else here) (way ++ rest)

/-- Where a path leads from a directory, if no more than the given number of links are met. -/
def walk (tree : Tree) : Nat → Place → List String → Except SystemFault Destination
  | 0 => tree.descend fun _ _ => .error .tooManyLinks
  | links + 1 => tree.descend (tree.walk links)

/-- What stands at a path, seen from a directory. -/
def entry (tree : Tree) (directory : Place) (path : Path) : Entry :=
  if path.text.isEmpty then .missing .notFound
  else if path.text.contains '\x00' then .missing .zeroInName
  else if path.text.utf8ByteSize > maxPathBytes then .missing .nameTooLong
  else
    let (fromTop, way) := parts path.text
    match tree.walk maxLinks (if fromTop then [] else directory) way with
    | .error fault => .missing fault
    | .ok .directory => .directory
    | .ok (.file place size content) =>
      .regular { canonical := .ok ⟨"/".intercalate place⟩, size := .ok size, content }

/-- The file system of a tree, seen from a directory. -/
def toFileSystem (tree : Tree) (directory : Place) : FileSystem where
  entry := tree.entry directory

end Tree

end Lineation
