import Lineation.Toml.Fault

/-!
# Strings of a configuration file

A string is written in one of four forms: between double quotes with escapes, between single
quotes without, and both over several lines between triple quotes. Reading takes any of them;
writing picks the first that fits.

A string over several lines drops a newline right after its opening quotes, and may end in up to
two quotes before the closing ones. In the form with escapes a backslash at the end of a line
drops the blanks and newlines that follow.

Main definitions:
* `readQuoted`: reads a string in any form;
* `writeQuoted`: writes a string.
-/

namespace Lineation.Toml

/-! ## Characters -/

/-- A blank within a line. -/
def isSpace (c : Char) : Bool :=
  c == ' ' || c == '\t'

/-- Characters that must not stand in a file as they are: controls other than tab and newline. -/
def isControl (c : Char) : Bool :=
  (c.toNat < 0x20 && c != '\t' && c != '\n') || c.toNat == 0x7f

/-- Characters that may stand in a line of text. -/
def isText (c : Char) : Bool :=
  !isControl c && c != '\n'

/-- The value of a hexadecimal digit. -/
def hexValue? (c : Char) : Option Nat :=
  if '0' ≤ c && c ≤ '9' then some (c.toNat - '0'.toNat)
  else if 'a' ≤ c && c ≤ 'f' then some (c.toNat - 'a'.toNat + 10)
  else if 'A' ≤ c && c ≤ 'F' then some (c.toNat - 'A'.toNat + 10)
  else none

/-- The hexadecimal digit of a value below 16. -/
def hexDigit (n : Nat) : Char :=
  if n < 10 then Char.ofNat ('0'.toNat + n) else Char.ofNat ('A'.toNat + (n - 10))

/-- The character whose code point has these hexadecimal digits. -/
def codePoint (construct : Construct) (digits : List Char) : Except Fault Char :=
  match digits.mapM hexValue? with
  | some values =>
    let n := values.foldl (fun n value => 16 * n + value) 0
    if n.isValidChar then .ok (Char.ofNat n) else .error (.because construct .outOfRange)
  | none => .error (.of construct [])

/-- The character that a backslash and one more character stand for. -/
def escape? : Char → Option Char
  | 'b' => some '\x08'
  | 't' => some '\t'
  | 'n' => some '\n'
  | 'f' => some '\x0c'
  | 'r' => some '\r'
  | '"' => some '"'
  | '\\' => some '\\'
  | _ => none

/-- The fault of a backslash before any other character. -/
def escapeFault : Fault :=
  .of .escape (["b", "f", "n", "r", "t", "u", "U", "\\", "\""].map .text)

/-! ## Reading

Each reader starts after the opening quotes, with the characters read so far latest first. -/

/-- Between double quotes. -/
def readBasic (read : List Char) : List Char → Except Fault (String × List Char)
  | '"' :: rest => .ok (String.ofList read.reverse, rest)
  | '\\' :: 'u' :: a :: b :: c :: d :: rest =>
    match codePoint .shortCode [a, b, c, d] with
    | .ok x => readBasic (x :: read) rest
    | .error fault => .error fault
  | '\\' :: 'u' :: _ => .error (.of .shortCode [])
  | '\\' :: 'U' :: a :: b :: c :: d :: e :: f :: g :: h :: rest =>
    match codePoint .longCode [a, b, c, d, e, f, g, h] with
    | .ok x => readBasic (x :: read) rest
    | .error fault => .error fault
  | '\\' :: 'U' :: _ => .error (.of .longCode [])
  | '\\' :: c :: rest =>
    match escape? c with
    | some x => readBasic (x :: read) rest
    | none => .error escapeFault
  | c :: rest =>
    if c != '\\' && isText c then readBasic (c :: read) rest else .error (.of .basicString [])
  | [] => .error (.of .basicString [])

/-- Between single quotes. -/
def readLiteral (read : List Char) : List Char → Except Fault (String × List Char)
  | '\'' :: rest => .ok (String.ofList read.reverse, rest)
  | c :: rest => if isText c then readLiteral (c :: read) rest else .error (.of .literalString [])
  | [] => .error (.of .literalString [])

/-- Three quotes or more at the start: how many there are besides the closing three, at most two,
and what follows. -/
def closing? (quote : Char) : List Char → Option (Nat × List Char)
  | a :: b :: c :: rest =>
    if a == quote && b == quote && c == quote then
      match rest with
      | d :: rest =>
        if d == quote then
          match rest with
          | e :: rest => if e == quote then some (2, rest) else some (1, e :: rest)
          | [] => some (1, [])
        else some (0, d :: rest)
      | [] => some (0, [])
    else none
  | _ => none

/-- Whether only blanks stand before the end of the line. -/
def endsLine (cs : List Char) : Bool :=
  match cs.dropWhile isSpace with
  | '\n' :: _ => true
  | '\r' :: '\n' :: _ => true
  | _ => false

/-- Between triple double quotes. `folding` says that a backslash ended a line and nothing but
blanks and newlines came since. -/
def readMultiBasic (folding : Bool) (read : List Char) :
    List Char → Except Fault (String × List Char)
  | [] => .error (.of .multiBasicString [])
  | c :: rest =>
    match closing? '"' (c :: rest) with
    | some (extra, after) =>
      .ok (String.ofList (List.replicate extra '"' ++ read).reverse, after)
    | none =>
      if c == '\\' then
        if endsLine rest then readMultiBasic true read rest
        else
          match rest with
          | 'u' :: a :: b :: c :: d :: rest =>
            match codePoint .shortCode [a, b, c, d] with
            | .ok x => readMultiBasic false (x :: read) rest
            | .error fault => .error fault
          | 'u' :: _ => .error (.of .shortCode [])
          | 'U' :: a :: b :: c :: d :: e :: f :: g :: h :: rest =>
            match codePoint .longCode [a, b, c, d, e, f, g, h] with
            | .ok x => readMultiBasic false (x :: read) rest
            | .error fault => .error fault
          | 'U' :: _ => .error (.of .longCode [])
          | d :: rest =>
            match escape? d with
            | some x => readMultiBasic false (x :: read) rest
            | none => .error escapeFault
          | [] => .error (.of .multiBasicString [])
      else if c == '\n' then
        if folding then readMultiBasic true read rest else readMultiBasic false (c :: read) rest
      else if c == '\r' then
        match rest with
        | '\n' :: rest =>
          if folding then readMultiBasic true read rest
          else readMultiBasic false ('\n' :: read) rest
        | _ => .error (.of .multiBasicString [])
      else if folding && isSpace c then readMultiBasic true read rest
      else if isText c then readMultiBasic false (c :: read) rest
      else .error (.of .multiBasicString [])

/-- Between triple single quotes. -/
def readMultiLiteral (read : List Char) : List Char → Except Fault (String × List Char)
  | [] => .error (.of .multiLiteralString [])
  | c :: rest =>
    match closing? '\'' (c :: rest) with
    | some (extra, after) =>
      .ok (String.ofList (List.replicate extra '\'' ++ read).reverse, after)
    | none =>
      if c == '\r' then
        match rest with
        | '\n' :: rest => readMultiLiteral ('\n' :: read) rest
        | _ => .error (.of .multiLiteralString [])
      else if isText c || c == '\n' then readMultiLiteral (c :: read) rest
      else .error (.of .multiLiteralString [])

/-- Drops a newline at the start. -/
def dropNewline : List Char → List Char
  | '\n' :: rest => rest
  | '\r' :: '\n' :: rest => rest
  | cs => cs

/-- Reads a string in any form. -/
def readQuoted : List Char → Reading String
  | '"' :: '"' :: '"' :: rest => .begun (readMultiBasic false [] (dropNewline rest))
  | '"' :: rest => .begun (readBasic [] rest)
  | '\'' :: '\'' :: '\'' :: rest => .begun (readMultiLiteral [] (dropNewline rest))
  | '\'' :: rest => .begun (readLiteral [] rest)
  | _ => .error (.absent (.of .string [.text "\"", .text "'"]))

/-! ## Writing -/

/-- The escape of a character in the forms with double quotes, the quote and the newline left
out. -/
def escapeText (c : Char) : List Char :=
  if c = '\x08' then ['\\', 'b']
  else if c = '\t' then ['\\', 't']
  else if c = '\x0c' then ['\\', 'f']
  else if c = '\r' then ['\\', 'r']
  else if c = '\\' then ['\\', '\\']
  else if isControl c then
    ['\\', 'u', '0', '0', hexDigit (c.toNat / 16), hexDigit (c.toNat % 16)]
  else [c]

/-- The escape of a character between double quotes. -/
def escapeBasic (c : Char) : List Char :=
  if c = '"' then ['\\', '"'] else if c = '\n' then ['\\', 'n'] else escapeText c

/-- The characters between triple double quotes, `run` of them being quotes in a row. The third in
a row is escaped. -/
def escapeMulti (run : Nat) : List Char → List Char
  | [] => []
  | c :: rest =>
    if c = '"' then
      if run ≥ 2 then '\\' :: '"' :: escapeMulti 0 rest else '"' :: escapeMulti (run + 1) rest
    else if c = '\n' then '\n' :: escapeMulti 0 rest
    else escapeText c ++ escapeMulti 0 rest

/-- The length of the longest row of a character, `run` of them standing before. -/
def longestRun (quote : Char) (run : Nat) : List Char → Nat
  | [] => run
  | c :: rest =>
    if c = quote then longestRun quote (run + 1) rest else max run (longestRun quote 0 rest)

/-- The four forms. -/
inductive QuotedForm where
  | basic
  | literal
  | multiBasic
  | multiLiteral
deriving Repr, DecidableEq, Inhabited

/-- The first form that fits, plain ones before those with escapes. -/
def quotedForm (text : List Char) : QuotedForm :=
  if text.any isControl then
    if text.contains '\n' then .multiBasic else .basic
  else if !text.contains '\\' && !text.contains '"' && !text.contains '\n' then .basic
  else if !text.contains '\'' && !text.contains '\n' then .literal
  else if !text.contains '\\' && longestRun '"' 0 text ≤ 2 then .multiBasic
  else if longestRun '\'' 0 text ≤ 2 then .multiLiteral
  else if text.contains '\n' then .multiBasic
  else .basic

/-- A string in a form. -/
def writeAs (form : QuotedForm) (text : List Char) : List Char :=
  let lead := if text.contains '\n' then ['\n'] else []
  match form with
  | .basic => '"' :: text.flatMap escapeBasic ++ ['"']
  | .literal => '\'' :: text ++ ['\'']
  | .multiBasic => ['"', '"', '"'] ++ lead ++ escapeMulti 0 text ++ ['"', '"', '"']
  | .multiLiteral => ['\'', '\'', '\''] ++ lead ++ text ++ ['\'', '\'', '\'']

/-- A string in the first form that fits. -/
def writeQuoted (text : String) : String :=
  String.ofList (writeAs (quotedForm text.toList) text.toList)

end Lineation.Toml
