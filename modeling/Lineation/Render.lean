import Lineation.Text.Quoted
import Lineation.TokenStream.Cursor

/-!
# Rendering streams

Three ways to show the tokens of a file: a row for each line record, a JSON document, and a row
for each token in either direction.
-/

namespace Lineation.Render

/-- A number in at least four columns, to the right. -/
def column (n : Nat) : String :=
  let digits := Nat.toDigits 10 n
  String.ofList (List.replicate (4 - digits.length) ' ' ++ digits)

/-- A line record as a row: its number and its tokens, quoted. -/
def recordRow (record : LineRecord) : String :=
  column record.number ++ " | " ++ " ".intercalate (record.texts.map Text.quoted) ++ "\n"

/-- A row for each record, under a heading with the path if asked for. -/
def text (path : String) (stream : TokenStream) (heading : Bool) : String :=
  let head := if heading then "==> " ++ path ++ " <==\n" else ""
  head ++ String.join (stream.lines.toList.map recordRow)

/-- The records and the number of tokens as a JSON document. -/
def json (path : String) (stream : TokenStream) : String :=
  (Json.object [
    ("file", .string path),
    ("lines", .array (stream.lines.toList.map LineRecord.toJson)),
    ("token_count", .number stream.size)]).pretty ++ "\n"

/-- A token as a row: the number of its line and its text, quoted. -/
def tokenRow (record : LineRecord) (token : Token) : String :=
  toString record.number ++ "\t" ++ Text.quoted token.text ++ "\n"

/-- A row for each token, as a cursor meets them. -/
def tokens (stream : TokenStream) (direction : Direction) : Except StreamError String :=
  match (Cursor.start stream direction).walk stream with
  | .ok (seen, _) => .ok (String.join (seen.map fun (record, token) => tokenRow record token))
  | .error e => .error e

end Lineation.Render
