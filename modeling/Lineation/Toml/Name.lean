import Lineation.Toml.Quoted

/-!
# Names in a configuration file

A name is bare, if it has letters, digits, underscores and hyphens of ASCII only, or stands between
quotes in one of the two forms that stay in a line. A key is a sequence of names with points
between them.

Main definitions:
* `readName`, `writeName`: reads a name, and writes one;
* `Key`, `readKey`: keys.
-/

namespace Lineation.Toml

/-- Characters of a name without quotes. -/
def isNameChar (c : Char) : Bool :=
  c.isAlphanum || c == '_' || c == '-'

/-- Reads a name, bare or between quotes. -/
def readName (cs : List Char) : Reading String :=
  match cs with
  | '"' :: rest => .begun (readBasic [] rest)
  | '\'' :: rest => .begun (readLiteral [] rest)
  | _ =>
    let name := cs.takeWhile isNameChar
    if name.isEmpty then .error (.absent (.of .key []))
    else .ok (String.ofList name, cs.drop name.length)

/-- A name as it is written: bare if it can be, else between quotes in a line. -/
def writeName (name : String) : String :=
  let cs := name.toList
  if !cs.isEmpty && cs.all isNameChar then name
  else String.ofList (writeAs (if quotedForm cs = .literal then .literal else .basic) cs)

/-- A dotted key: the names on the way, and the last one. -/
structure Key where
  path : List String
  name : String
deriving Repr, DecidableEq, Inhabited

/-- How deep keys, arrays and tables may go. -/
def depthLimit : Nat := 80

/-- Drops blanks. -/
def skipSpace (cs : List Char) : List Char :=
  cs.dropWhile isSpace

/-- Reads at most `fuel` points with a name after each of them. `path` holds the names before
`name`, latest first. A point that no name follows is left standing. -/
def readNames : Nat → List String → String → List Char → Reading Key
  | 0, path, name, cs => .ok (⟨path.reverse, name⟩, cs)
  | fuel + 1, path, name, cs =>
    match cs with
    | '.' :: rest =>
      match readName (skipSpace rest) with
      | .ok (next, rest) => readNames fuel (name :: path) next (skipSpace rest)
      | .error (.absent _) => .ok (⟨path.reverse, name⟩, cs)
      | .error (.broken fault) => .error (.broken fault)
    | _ => .ok (⟨path.reverse, name⟩, cs)

/-- Reads a key and the blanks around it. It has fewer names than the limit. -/
def readKey (fuel : Nat) (cs : List Char) : Reading Key :=
  match readName (skipSpace cs) with
  | .error failure => .error failure
  | .ok (name, rest) =>
    match readNames fuel [] name (skipSpace rest) with
    | .error failure => .error failure
    | .ok (key, rest) =>
      if key.path.length + 1 < depthLimit then .ok (key, rest)
      else .error (.absent (.because none .tooDeep))

end Lineation.Toml
