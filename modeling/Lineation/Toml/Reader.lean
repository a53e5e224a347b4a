import Lineation.Toml.Document
import Lineation.Toml.Scalar

/-!
# Reading a configuration file

A file is read statement by statement, and each statement takes effect before the next is read, so
that the first fault of the file is the one that is met. Blanks, newlines and comments may stand
between statements and between the elements of an array; a carriage return stands only before a
newline.

The readers of values call each other; each call is given less fuel than its caller has. Of two
calls one takes a character, so twice as much fuel as there are characters is enough.

Main definitions:
* `readValue`, `readStatement`: the parts of a file;
* `parse`: the table that a file holds, or its first fault.
-/

namespace Lineation.Toml

/-! ## Between the parts -/

/-- What follows the text of a comment. -/
def skipComment (cs : List Char) : List Char :=
  cs.dropWhile isText

/-- The next line, if this one ends here. The file may end instead. -/
def nextLine? : List Char → Option (List Char)
  | [] => some []
  | '\n' :: rest => some rest
  | '\r' :: '\n' :: rest => some rest
  | _ => none

/-- The next line, if nothing but a comment stands in the rest of this one. -/
def lineEnd? (cs : List Char) : Option (List Char) :=
  match skipSpace cs with
  | '#' :: rest => nextLine? (skipComment rest)
  | rest => nextLine? rest

/-- Drops blanks, newlines and comments, if every comment ends with its line. `comment` says that
one has begun. -/
def skipFiller? (comment : Bool) : List Char → Option (List Char)
  | [] => if comment then none else some []
  | c :: rest =>
    if c == '\n' then skipFiller? false rest
    else if c == '\r' then if rest.head? == some '\n' then skipFiller? false rest else none
    else if comment then if isText c then skipFiller? true rest else none
    else if isSpace c then skipFiller? false rest
    else if c == '#' then skipFiller? true rest
    else some (c :: rest)

/-! ## Values -/

/-- What may follow a name in a key before its value. -/
def assignmentFault : Fault :=
  .wants [.text ".", .text "="]

/-- The end of a table between braces, after its pairs. -/
def closePairs (pairs : List (Key × Value)) (cs : List Char) : Reading Value :=
  match ofPairs pairs with
  | .error cause => .error (.broken (.because none cause))
  | .ok table =>
    match skipSpace cs with
    | '\x7d' :: rest => .ok (table, rest)
    | _ => .error (.broken (.of .inlineTable [.text "\x7d"]))

mutual

/-- Reads a value at a depth. -/
def readValue : Nat → Nat → List Char → Reading Value
  | 0, _, _ => .error (.broken {})
  | fuel + 1, depth, cs =>
    match cs with
    | '[' :: rest =>
      if depth + 1 < depthLimit then readElements fuel (depth + 1) [] rest
      else .error (.absent (.because none .tooDeep))
    | '\x7b' :: rest =>
      if depth + 1 < depthLimit then readPairs fuel (depth + 1) [] rest
      else .error (.absent (.because none .tooDeep))
    | '"' :: _ | '\'' :: _ => (readQuoted cs).map fun (text, rest) => (.string text, rest)
    | _ => readScalar cs

/-- Reads the rest of an array, after the elements in `read`, which are latest first. -/
def readElements : Nat → Nat → List Value → List Char → Reading Value
  | 0, _, _, _ => .error (.broken {})
  | fuel + 1, depth, read, cs =>
    match skipFiller? false cs with
    | none => .error (.broken {})
    | some (']' :: rest) => .ok (.array read.reverse, rest)
    | some cs =>
      match readValue fuel depth cs with
      | .error (.broken fault) => .error (.broken fault)
      | .error (.absent _) => .error (.broken (.of .array [.text "]"]))
      | .ok (value, rest) =>
        match skipFiller? false rest with
        | some (',' :: rest) => readElements fuel depth (value :: read) rest
        | some (']' :: rest) => .ok (.array (value :: read).reverse, rest)
        | _ => .error (.broken (.of .array [.text "]"]))

/-- Reads the rest of a table between braces, after the pairs in `read`, which are latest first. A
comma stands only between two pairs. -/
def readPairs : Nat → Nat → List (Key × Value) → List Char → Reading Value
  | 0, _, _, _ => .error (.broken {})
  | fuel + 1, depth, read, cs =>
    match readKey fuel cs with
    | .error (.broken fault) => .error (.broken fault)
    | .error (.absent _) => closePairs read.reverse (if read.isEmpty then cs else ',' :: cs)
    | .ok (key, '=' :: rest) =>
      match readValue fuel depth (skipSpace rest) with
      | .error failure => .error (.broken failure.fault)
      | .ok (value, rest) =>
        match skipSpace rest with
        | ',' :: rest => readPairs fuel depth ((key, value) :: read) rest
        | rest => closePairs ((key, value) :: read).reverse rest
    | .ok _ => .error (.broken assignmentFault)

end

/-! ## Statements -/

/-- A statement and the next line, if nothing else stands in the rest of this one. -/
def endStatement (construct : Option Construct) (statement : Statement) (cs : List Char) :
    Except Fault (Statement × List Char) :=
  match lineEnd? cs with
  | some rest => .ok (statement, rest)
  | none => .error { construct, expected := [.newline, .text "#"] }

/-- Reads the rest of a header, with so many closing brackets. -/
def readHeader (fuel : Nat) (closing : List Char) (header : Key → Statement) (cs : List Char) :
    Except Fault (Statement × List Char) :=
  match readKey fuel cs with
  | .error failure => .error (failure.fault.within .tableHeader)
  | .ok (key, rest) =>
    if closing.isPrefixOf rest then
      endStatement (some .tableHeader) (header key) (rest.drop closing.length)
    else .error (.of .tableHeader [.text ".", .text (String.ofList closing)])

/-- Reads an assignment. -/
def readAssignment (fuel : Nat) (cs : List Char) : Except Fault (Statement × List Char) :=
  match readKey fuel cs with
  | .error failure => .error failure.fault
  | .ok (key, '=' :: rest) =>
    match readValue fuel 0 (skipSpace rest) with
    | .error failure => .error failure.fault
    | .ok (value, rest) => endStatement none (.assign key value) rest
  | .ok _ => .error assignmentFault

/-- Reads a statement up to the end of its line. -/
def readStatement (fuel : Nat) (cs : List Char) : Except Fault (Statement × List Char) :=
  match cs with
  | ['['] => .error (.of .tableHeader [])
  | '[' :: '[' :: rest => readHeader fuel [']', ']'] .elementHeader rest
  | '[' :: rest => readHeader fuel [']'] .tableHeader rest
  | _ => readAssignment fuel cs

/-- The fault of a statement that is spelled well and cannot take effect. -/
def Statement.fault (statement : Statement) (cause : Cause) : Fault :=
  match statement with
  | .assign _ _ => .because none cause
  | .tableHeader _ | .elementHeader _ => .because (some .tableHeader) cause

/-- Reads at most `fuel` statements and adds them to what was built before. -/
def readStatements : Nat → Builder → List Char → Except Fault Builder
  | 0, _, _ => .error {}
  | fuel + 1, builder, cs =>
    match skipSpace cs with
    | [] => .ok builder
    | '#' :: rest =>
      match nextLine? (skipComment rest) with
      | some rest => readStatements fuel builder rest
      | none => .error {}
    | '\n' :: rest => readStatements fuel builder rest
    | '\r' :: '\n' :: rest => readStatements fuel builder rest
    | '\r' :: _ => .error {}
    | cs =>
      match readStatement fuel cs with
      | .error fault => .error fault
      | .ok (statement, rest) =>
        match builder.add statement with
        | .error cause => .error (statement.fault cause)
        | .ok builder => readStatements fuel builder rest

/-- Drops a byte order mark. -/
def dropMark : List Char → List Char
  | '\ufeff' :: rest => rest
  | cs => cs

/-- The table that a file holds, or its first fault. -/
def parse (text : String) : Except Fault Value :=
  let cs := dropMark text.toList
  (readStatements (2 * cs.length + 2) {} cs).map Builder.toValue

end Lineation.Toml
