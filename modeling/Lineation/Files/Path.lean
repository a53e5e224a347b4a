import Lineation.Text.Split

/-!
# Paths

A path is kept as it was written. Two paths are compared by their components: repeated and
trailing slashes do not count, nor does a `.` that is not at the start.

Main definitions:
* `Path.components`: what counts in comparisons;
* `Path.compare`: the order of paths;
* `Path.join`: a path below another;
* `Path.extension?`: what follows the last point of the file name.
-/

namespace Lineation

/-- A part of a path. -/
inductive PathComponent where
  /-- The slash at the start. -/
  | root
  /-- A `.` at the start. -/
  | here
  /-- A `..`. -/
  | up
  | name (text : String)
deriving Repr, DecidableEq, Inhabited

namespace PathComponent

def rank : PathComponent → Nat
  | root => 0
  | here => 1
  | up => 2
  | name _ => 3

/-- Kinds are ordered by rank, names by their characters. -/
def compare : PathComponent → PathComponent → Ordering
  | name a, name b => Ord.compare a b
  | a, b => Ord.compare a.rank b.rank

end PathComponent

/-- A path as it was written. -/
structure Path where
  text : String
deriving Repr, DecidableEq, Inhabited

namespace Path

/-- The component that a part between slashes stands for, if it counts. -/
def component? : String → Option PathComponent
  | "" => none
  | "." => none
  | ".." => some .up
  | part => some (.name part)

/-- What counts in comparisons. -/
def components (path : Path) : List PathComponent :=
  match Text.split '/' path.text with
  | [] => []
  | [""] => []
  | "" :: rest => .root :: rest.filterMap component?
  | "." :: rest => .here :: rest.filterMap component?
  | parts => parts.filterMap component?

/-- Lexicographic order of component lists. -/
def compareComponents : List PathComponent → List PathComponent → Ordering
  | [], [] => .eq
  | [], _ :: _ => .lt
  | _ :: _, [] => .gt
  | a :: as, b :: bs =>
    match a.compare b with
    | .eq => compareComponents as bs
    | other => other

/-- The order of paths. -/
def compare (a b : Path) : Ordering :=
  compareComponents a.components b.components

/-- A path below this one. A slash is put between them if there is none, and a path that starts with
a slash stands for itself. -/
def join (path : Path) (below : String) : Path :=
  if below.startsWith "/" then ⟨below⟩
  else if path.text.isEmpty || path.text.endsWith "/" then ⟨path.text ++ below⟩
  else ⟨path.text ++ "/" ++ below⟩

/-- The last component, if it is a name. -/
def fileName? (path : Path) : Option String :=
  match path.components.getLast? with
  | some (.name text) => some text
  | _ => none

/-- What follows the last point of the file name. A point at the start of the name is no
extension. -/
def extension? (path : Path) : Option String :=
  match path.fileName? with
  | none => none
  | some name =>
    let reversed := name.toList.reverse
    let tail := reversed.takeWhile (· != '.')
    match reversed.drop tail.length with
    | [] => none
    | [_] => none
    | _ :: _ => some (String.ofList tail.reverse)

end Path

end Lineation
