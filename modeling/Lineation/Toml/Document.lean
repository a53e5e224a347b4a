import Lineation.Toml.Name
import Lineation.Toml.Value

/-!
# Tables of a configuration file

A configuration file is a sequence of statements: an assignment to a key of the current table, or
a header that starts a table or one more element of an array of tables. Each name is given once. A
table that was only named on the way to another can still be started by a header; one that came
about by a dotted key, or was started before, cannot.

Main definitions:
* `Statement`: an assignment or a header;
* `Entries.assign`, `Entries.startTable`, `Entries.startElement`: what a statement does;
* `Builder.add`, `Builder.toValue`: one more statement, and the table in the end;
* `ofPairs`: the table that assignments between braces give.
-/

namespace Lineation.Toml

/-- How a table came about. -/
inductive TableOrigin where
  /-- By a header of its own. -/
  | header
  /-- On the way to another table that has a header. -/
  | passage
  /-- By a dotted key. -/
  | dotted
deriving Repr, DecidableEq, Inhabited

/-- What a name stands for. -/
inductive Item where
  | value (value : Value)
  | table (origin : TableOrigin) (entries : List (String × Item))
  /-- An array of tables, the latest element apart and the earlier ones latest first. -/
  | tables (latest : List (String × Item)) (earlier : List (List (String × Item)))
deriving Inhabited

/-- The entries of a table that is being built. -/
abbrev Entries := List (String × Item)

namespace Entries

/-- Replaces the item of a name, or adds it at the end. -/
def put (entries : Entries) (name : String) (item : Item) : Entries :=
  match entries with
  | [] => [(name, item)]
  | (other, old) :: rest =>
    if other = name then (name, item) :: rest else (other, old) :: put rest name item

/-- Where assignments are made: the path of the current table, or nothing between braces. -/
abbrev Home := Option (List String)

/-- Changes the table at the end of a path, `passed` being the names on the way so far, latest
first. Tables that are missing on the way are made. A dotted key does not pass through a table that
has a header, and a path into an array of tables goes to its latest element. -/
def within (dotted : Bool) (home : Home) (change : TableOrigin → Entries → Except Cause Entries)
    (passed : List String) : List String → TableOrigin → Entries → Except Cause Entries
  | [], origin, entries => change origin entries
  | name :: path, _, entries =>
    match entries.lookup name with
    | none =>
      let origin := if dotted then .dotted else .passage
      (within dotted home change (name :: passed) path origin []).map fun inner =>
        entries.put name (.table origin inner)
    | some (.value value) =>
      if home.isNone && value.isTable then .error (.duplicate name none)
      else .error (.notTable (name :: passed).reverse value.kind)
    | some (.tables latest earlier) =>
      (within dotted home change (name :: passed) path .header latest).map fun inner =>
        entries.put name (.tables inner earlier)
    | some (.table origin inner) =>
      if dotted && origin == .header then .error (.duplicate name none)
      else
        (within dotted home change (name :: passed) path origin inner).map fun inner =>
          entries.put name (.table origin inner)

/-- Gives a value to a new name. With a dotted key the table must have come about by one. -/
def insert (home : Home) (viaDots : Bool) (name : String) (value : Value) (origin : TableOrigin)
    (entries : Entries) : Except Cause Entries :=
  if viaDots && origin != .dotted then .error (.duplicate name none)
  else if !viaDots && origin == .dotted then .error (.duplicate name none)
  else if (entries.lookup name).isSome then .error (.duplicate name home)
  else .ok (entries.put name (.value value))

/-- Assigns a value to a key of the current table. -/
def assign (home : Home) (key : Key) (value : Value) (origin : TableOrigin) (entries : Entries) :
    Except Cause Entries :=
  within true home (insert home (!key.path.isEmpty) key.name value) [] key.path origin entries

/-- Starts a table by a header. -/
def startTable (key : Key) (_ : TableOrigin) (entries : Entries) : Except Cause Entries :=
  match entries.lookup key.name with
  | none => .ok (entries.put key.name (.table .header []))
  | some (.table .passage inner) => .ok (entries.put key.name (.table .header inner))
  | some _ => .error (.duplicate (writeName key.name) key.path)

/-- Starts one more element of an array of tables. -/
def startElement (key : Key) (_ : TableOrigin) (entries : Entries) : Except Cause Entries :=
  match entries.lookup key.name with
  | none => .ok (entries.put key.name (.tables [] []))
  | some (.tables latest earlier) => .ok (entries.put key.name (.tables [] (latest :: earlier)))
  | some _ => .error (.duplicate (writeName key.name) key.path)

end Entries

mutual

/-- The finished value of an item. -/
def Item.toValue : Item → Value
  | .value value => value
  | .table _ entries => .table (entriesToValues entries)
  | .tables latest earlier =>
    .array ((elementsToValues earlier).reverse ++ [.table (entriesToValues latest)])

def entriesToValues : List (String × Item) → List (String × Value)
  | [] => []
  | (name, item) :: rest => (name, item.toValue) :: entriesToValues rest

def elementsToValues : List (List (String × Item)) → List Value
  | [] => []
  | entries :: rest => .table (entriesToValues entries) :: elementsToValues rest

end

/-- A statement of a file. -/
inductive Statement where
  | assign (key : Key) (value : Value)
  | tableHeader (key : Key)
  | elementHeader (key : Key)
deriving Inhabited

/-- A table that is being built: its entries, and where assignments are made. -/
structure Builder where
  entries : Entries := []
  home : Entries.Home := some []

namespace Builder

/-- What a statement does. -/
def add (builder : Builder) : Statement → Except Cause Builder
  | .assign key value =>
    (builder.entries.within false builder.home (fun origin entries =>
      entries.assign builder.home key value origin) [] (builder.home.getD []) .header).map
        fun entries => { builder with entries }
  | .tableHeader key =>
    (builder.entries.within false builder.home (fun origin entries =>
      entries.startTable key origin) [] key.path .header).map
        fun entries => ⟨entries, some (key.path ++ [key.name])⟩
  | .elementHeader key =>
    (builder.entries.within false builder.home (fun origin entries =>
      entries.startElement key origin) [] key.path .header).map
        fun entries => ⟨entries, some (key.path ++ [key.name])⟩

/-- The table that was built. -/
def toValue (builder : Builder) : Value :=
  .table (entriesToValues builder.entries)

end Builder

/-- The table that assignments between braces give. -/
def ofPairs (pairs : List (Key × Value)) : Except Cause Value :=
  (pairs.foldlM (fun builder (key, value) => Builder.add builder (.assign key value))
    (Builder.mk [] none)).map Builder.toValue

end Lineation.Toml
