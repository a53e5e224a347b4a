/-!
# JSON documents

The values that the program writes as JSON, and their two written forms. Numbers are natural
numbers; an object keeps its members in the order in which they stand.

Main definitions:
* `Json.compact`: everything on one line, without blanks;
* `Json.pretty`: one member or element a line, two blanks a level.
-/

namespace Lineation

/-- A JSON value with natural numbers. -/
inductive Json where
  | null
  | bool (value : Bool)
  | number (value : Nat)
  | string (value : String)
  | array (elements : List Json)
  | object (members : List (String × Json))
deriving Inhabited

namespace Json

/-- A control character by its code in four hexadecimal digits. -/
def controlEscape (c : Char) : List Char :=
  let digits := Nat.toDigits 16 c.toNat
  ['\\', 'u'] ++ List.replicate (4 - digits.length) '0' ++ digits

/-- One character inside a JSON string. -/
def escapeChar (c : Char) : List Char :=
  if c = '"' then ['\\', '"']
  else if c = '\\' then ['\\', '\\']
  else if c = '\x08' then ['\\', 'b']
  else if c = '\x0c' then ['\\', 'f']
  else if c = '\n' then ['\\', 'n']
  else if c = '\r' then ['\\', 'r']
  else if c = '\t' then ['\\', 't']
  else if c.toNat < 0x20 then controlEscape c
  else [c]

/-- A JSON string literal. -/
def literal (text : String) : String :=
  String.ofList ('"' :: text.toList.flatMap escapeChar ++ ['"'])

def boolText (value : Bool) : String :=
  if value then "true" else "false"

mutual

/-- The value on one line, without blanks. -/
def compact : Json → String
  | null => "null"
  | bool value => boolText value
  | number value => toString value
  | string value => literal value
  | array elements => "[" ++ ",".intercalate (compactElements elements) ++ "]"
  | object members => "\x7b" ++ ",".intercalate (compactMembers members) ++ "\x7d"

def compactElements : List Json → List String
  | [] => []
  | element :: rest => compact element :: compactElements rest

def compactMembers : List (String × Json) → List String
  | [] => []
  | (name, value) :: rest =>
    (literal name ++ ":" ++ compact value) :: compactMembers rest

end

/-- A line break and the indentation of a level. -/
def lineBreak (level : Nat) : String :=
  String.ofList ('\n' :: List.replicate (2 * level) ' ')

/-- Rows between two brackets, each on its own line one level further in. -/
def block (left right : String) (level : Nat) (rows : List String) : String :=
  if rows.isEmpty then left ++ right
  else
    left ++ lineBreak (level + 1) ++ ("," ++ lineBreak (level + 1)).intercalate rows ++
      lineBreak level ++ right

mutual

/-- The value over several lines, at a level of indentation. -/
def prettyAt (level : Nat) : Json → String
  | null => "null"
  | bool value => boolText value
  | number value => toString value
  | string value => literal value
  | array elements => block "[" "]" level (prettyElements (level + 1) elements)
  | object members => block "\x7b" "\x7d" level (prettyMembers (level + 1) members)

def prettyElements (level : Nat) : List Json → List String
  | [] => []
  | element :: rest => prettyAt level element :: prettyElements level rest

def prettyMembers (level : Nat) : List (String × Json) → List String
  | [] => []
  | (name, value) :: rest =>
    (literal name ++ ": " ++ prettyAt level value) :: prettyMembers level rest

end

/-- The value over several lines. -/
def pretty (value : Json) : String :=
  prettyAt 0 value

end Json

end Lineation
