import Lineation.Diagnostics.Code
import Lineation.LineRecord

/-!
# Token streams

Line records in order, with the number of their tokens kept beside them. Seen flat, a stream is
the list of all tokens.

Main definitions:
* `TokenStream.toList`: the tokens of all records in order;
* `TokenStream.replaceLine`, `TokenStream.pushLine`: changes that refuse a record without tokens;
* `TokenStream.nth?`: the token at a place of the flat list.
-/

namespace Lineation

/-- Why an access to a stream is refused. -/
inductive StreamError where
  /-- A cursor moved past an end, or stands on no token. -/
  | outOfRange
  /-- There is no record with this index. -/
  | noSuchLine (index lines : Nat)
  /-- A record without tokens was offered at this index. -/
  | emptyRecord (index : Nat)
deriving Repr, DecidableEq, Inhabited

namespace StreamError

open Diagnostics

def code : StreamError → Code
  | outOfRange => .cursorOutOfRange
  | noSuchLine _ _ => .lineOutOfRange
  | emptyRecord _ => .recordWithoutTokens

def message : StreamError → String
  | outOfRange => "no more tokens"
  | noSuchLine index lines => s!"line index {index} out of range ({lines} lines)"
  | emptyRecord index => s!"line record at index {index} has no tokens"

end StreamError

/-- Line records and the number of their tokens. -/
structure TokenStream where
  lines : Array LineRecord := #[]
  size : Nat := 0
deriving Inhabited

namespace TokenStream

/-- The number of tokens of some records. -/
def countTokens (lines : Array LineRecord) : Nat :=
  lines.foldl (fun n record => n + record.size) 0

/-- The stream of some records. -/
def ofLines (lines : Array LineRecord) : TokenStream :=
  ⟨lines, countTokens lines⟩

def ofRecords (records : List LineRecord) : TokenStream :=
  ofLines records.toArray

/-- All tokens in order. -/
def toList (stream : TokenStream) : List Token :=
  stream.lines.toList.flatMap fun record => record.tokens.toList

def isEmpty (stream : TokenStream) : Bool :=
  stream.size == 0

def lineCount (stream : TokenStream) : Nat :=
  stream.lines.size

/-- Streams are equal when their records and sizes are. -/
instance : BEq TokenStream := ⟨fun a b => a.lines == b.lines && a.size == b.size⟩

/-- The record at an index. -/
def line (stream : TokenStream) (index : Nat) : Except StreamError LineRecord :=
  match stream.lines[index]? with
  | some record => .ok record
  | none => .error (.noSuchLine index stream.lines.size)

/-- Puts all records anew. -/
def setLines (_ : TokenStream) (lines : Array LineRecord) : TokenStream :=
  ofLines lines

/-- Replaces the record at an index, and gives the old one. -/
def replaceLine (stream : TokenStream) (index : Nat) (record : LineRecord) :
    Except StreamError (LineRecord × TokenStream) :=
  if record.isEmpty then .error (.emptyRecord index)
  else
    match stream.lines[index]? with
    | none => .error (.noSuchLine index stream.lines.size)
    | some previous =>
      .ok (previous,
        ⟨stream.lines.setIfInBounds index record, stream.size - previous.size + record.size⟩)

/-- Adds a record at the end. -/
def pushLine (stream : TokenStream) (record : LineRecord) : Except StreamError TokenStream :=
  if record.isEmpty then .error (.emptyRecord stream.lines.size)
  else .ok ⟨stream.lines.push record, stream.size + record.size⟩

/-- The token at a place of the flat list, counted through the records. -/
def nthFrom? : List LineRecord → Nat → Option Token
  | [], _ => none
  | record :: rest, n =>
    if n < record.size then record.tokens[n]? else nthFrom? rest (n - record.size)

/-- The token at a place of the flat list. -/
def nth? (stream : TokenStream) (n : Nat) : Option Token :=
  nthFrom? stream.lines.toList n

/-- The records. -/
def toJson (stream : TokenStream) : Json :=
  .object [("lines", .array (stream.lines.toList.map LineRecord.toJson))]

end TokenStream

end Lineation
