import Lineation.TokenStream.Cursor

/-!
# Edits of a stream

The changes that a stream offers, as data. An edit that is refused leaves the stream as it was.

Main definitions:
* `TokenStream.perform`: does an edit;
* `TokenStream.performAll`: does several in turn.
-/

namespace Lineation

/-- A change of a stream. -/
inductive StreamEdit where
  | setLines (lines : Array LineRecord)
  | pushLine (record : LineRecord)
  | replaceLine (index : Nat) (record : LineRecord)
  /-- Exchanges the record under a cursor. -/
  | replaceAt (cursor : Cursor) (record : LineRecord)

namespace TokenStream

/-- What came of an edit: the record that was taken out, if one was, or a refusal, and the stream
afterwards. -/
abbrev Outcome := Except StreamError (Option LineRecord) × TokenStream

/-- Does an edit. -/
def perform (stream : TokenStream) : StreamEdit → Outcome
  | .setLines lines => (.ok none, stream.setLines lines)
  | .pushLine record =>
    match stream.pushLine record with
    | .ok next => (.ok none, next)
    | .error e => (.error e, stream)
  | .replaceLine index record =>
    match stream.replaceLine index record with
    | .ok (previous, next) => (.ok (some previous), next)
    | .error e => (.error e, stream)
  | .replaceAt cursor record =>
    match cursor.replaceLine stream record with
    | .ok replacement => (.ok (some replacement.previous), replacement.stream)
    | .error e => (.error e, stream)

/-- Does some edits in turn, whether or not they are refused. -/
def performAll (stream : TokenStream) (edits : List StreamEdit) : TokenStream :=
  edits.foldl (fun stream edit => (stream.perform edit).2) stream

end TokenStream

end Lineation
