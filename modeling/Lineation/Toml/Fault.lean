/-!
# Faults of a configuration file

A fault says what was being read, what would have been taken where it was met, and, where there is
one, a cause beyond the spelling. Any of the three may be missing.

A reader fails in one of two ways. Either nothing of the kind starts here, and something else may
still be read, or what it reads has begun and is broken, and the whole file is.

Main definitions:
* `Fault`, `Fault.message`: a fault and its wording;
* `Failure`: the two ways in which a reader fails;
* `Reading`: what a reader gives.
-/

namespace Lineation.Toml

/-- What was being read. -/
inductive Construct where
  | key
  | tableHeader
  | array
  | inlineTable
  | string
  | basicString
  | literalString
  | multiBasicString
  | multiLiteralString
  | escape
  | shortCode
  | longCode
  | integer
  | hexadecimal
  | octal
  | binary
  | float
  | moment
  | time
  | offset
deriving Repr, DecidableEq, Inhabited

def Construct.label : Construct → String
  | key => "key"
  | tableHeader => "table header"
  | array => "array"
  | inlineTable => "inline table"
  | string => "string"
  | basicString => "basic string"
  | literalString => "literal string"
  | multiBasicString => "multiline basic string"
  | multiLiteralString => "multiline literal string"
  | escape => "escape sequence"
  | shortCode => "unicode 4-digit hex code"
  | longCode => "unicode 8-digit hex code"
  | integer => "integer"
  | hexadecimal => "hexadecimal integer"
  | octal => "octal integer"
  | binary => "binary integer"
  | float => "floating-point number"
  | moment => "date-time"
  | time => "time"
  | offset => "time offset"

/-- What would have been taken. -/
inductive Expectation where
  | text (characters : String)
  | newline
  | digit
  | leadingDigit
deriving Repr, DecidableEq, Inhabited

def Expectation.label : Expectation → String
  | text characters => "`" ++ characters ++ "`"
  | newline => "newline"
  | digit => "digit"
  | leadingDigit => "leading digit"

/-- What is wrong beyond the spelling. -/
inductive Cause where
  | outOfRange
  | tooDeep
  | tooLarge
  | tooSmall
  /-- A name that is given twice, and the path of its table where that is told. -/
  | duplicate (name : String) (table : Option (List String))
  /-- A path through a value that is no table, up to that value, and its kind. -/
  | notTable (path : List String) (kind : String)
deriving Repr, DecidableEq, Inhabited

def Cause.message : Cause → String
  | outOfRange => "value is out of range"
  | tooDeep => "recursion limit exceeded"
  | tooLarge => "number too large to fit in target type"
  | tooSmall => "number too small to fit in target type"
  | duplicate name none => "duplicate key `" ++ name ++ "`"
  | duplicate name (some []) => "duplicate key `" ++ name ++ "` in document root"
  | duplicate name (some table) =>
    "duplicate key `" ++ name ++ "` in table `" ++ ".".intercalate table ++ "`"
  | notTable path kind =>
    "dotted key `" ++ ".".intercalate path ++ "` attempted to extend non-table type (" ++ kind ++ ")"

/-- Why a file cannot be read. -/
structure Fault where
  construct : Option Construct := none
  expected : List Expectation := []
  cause : Option Cause := none
deriving Repr, DecidableEq, Inhabited

namespace Fault

/-- The fault of a construct, with what would have been taken. -/
def of (construct : Construct) (expected : List Expectation) : Fault :=
  { construct := some construct, expected }

/-- Where nothing is known of what was read, only what would have been taken. -/
def wants (expected : List Expectation) : Fault :=
  { expected }

/-- A construct that is spelled well and is wrong all the same. -/
def because (construct : Option Construct) (cause : Cause) : Fault :=
  { construct, cause := some cause }

/-- The same fault, met within a construct. The innermost construct is the one that is told. -/
def within (fault : Fault) (construct : Construct) : Fault :=
  { fault with construct := fault.construct.or (some construct) }

/-- The parts of the wording, each on a line of its own. -/
def lines (fault : Fault) : List String :=
  (fault.construct.map fun construct => "invalid " ++ construct.label).toList ++
    (if fault.expected.isEmpty then []
      else ["expected " ++ ", ".intercalate (fault.expected.map Expectation.label)]) ++
    (fault.cause.map Cause.message).toList

def message (fault : Fault) : String :=
  "\n".intercalate fault.lines

end Fault

/-- The two ways in which a reader fails. -/
inductive Failure where
  /-- Nothing of the kind starts here. -/
  | absent (fault : Fault)
  /-- What was read has begun and is broken. -/
  | broken (fault : Fault)
deriving Repr, DecidableEq, Inhabited

def Failure.fault : Failure → Fault
  | absent fault => fault
  | broken fault => fault

/-- What a reader gives: what it read, and the characters that follow. -/
abbrev Reading (α : Type) := Except Failure (α × List Char)

namespace Reading

variable {α : Type}

/-- Something that must stand here: where it does not start, the file is broken. -/
def required (reading : Reading α) : Reading α :=
  reading.mapError fun failure => .broken failure.fault

/-- The first reading, or the second where nothing of the first kind starts here. -/
def orElse (first : Reading α) (second : Unit → Reading α) : Reading α :=
  match first with
  | .error (.absent _) => second ()
  | _ => first

/-- What was begun already: any fault breaks the file. -/
def begun (result : Except Fault (α × List Char)) : Reading α :=
  result.mapError .broken

end Reading

end Lineation.Toml
