import Lineation.TokenStream.Position

/-!
# Cursors

A cursor is a position with a direction. It starts on the first token of its direction and ends
past the last one; it can step back as far as where it started. Moving by several tokens either
succeeds as a whole or leaves the cursor where it was.

Main definitions:
* `Cursor.start`, `Cursor.finish`: the two ends of a walk;
* `Cursor.advance`, `Cursor.retreat` and their forms for several tokens;
* `Cursor.replaceLine`: exchanges the record under the cursor;
* `Cursor.walk`: all tokens from a cursor to its end.
-/

namespace Lineation

/-- The two ways through a stream. -/
inductive Direction where
  | forward
  | backward
deriving Repr, DecidableEq, Inhabited

namespace Direction

/-- Where a walk starts. -/
def start (lines : Array LineRecord) : Direction → Position
  | forward => Position.first lines
  | backward => Position.last lines

/-- Where a walk has ended. -/
def sentinel : Direction → Position
  | forward => .pastLast
  | backward => .beforeFirst

/-- The end that a walk does not step back to. -/
def barrier : Direction → Position
  | forward => .beforeFirst
  | backward => .pastLast

/-- One token on. -/
def advance? (lines : Array LineRecord) : Direction → Position → Option Position
  | forward, p => p.next? lines
  | backward, p => p.previous? lines

/-- One token back. -/
def retreat? (lines : Array LineRecord) (direction : Direction) (p : Position) :
    Option Position :=
  let back := match direction with
    | forward => p.previous? lines
    | backward => p.next? lines
  back.filter (· != direction.barrier)

end Direction

/-- A position and a direction. -/
structure Cursor where
  direction : Direction
  position : Position
deriving Repr, DecidableEq, Inhabited

/-- Takes `n` steps, if all of them can be taken. -/
def stepsFrom? {α : Type} (step : α → Option α) : Nat → α → Option α
  | 0, a => some a
  | n + 1, a =>
    match step a with
    | some b => stepsFrom? step n b
    | none => none

namespace Cursor

/-- At the first token of the direction. -/
def start (stream : TokenStream) (direction : Direction) : Cursor :=
  ⟨direction, direction.start stream.lines⟩

/-- Past the last token of the direction. -/
def finish (direction : Direction) : Cursor :=
  ⟨direction, direction.sentinel⟩

def isEnd (cursor : Cursor) : Bool :=
  cursor.position == cursor.direction.sentinel

/-- The cursor at a new position, if there is one. -/
def moved (cursor : Cursor) : Option Position → Except StreamError Cursor
  | some position => .ok { cursor with position }
  | none => .error .outOfRange

/-- Moves by `n` tokens in the direction. -/
def advanceBy (stream : TokenStream) (n : Nat) (cursor : Cursor) : Except StreamError Cursor :=
  cursor.moved (stepsFrom? (cursor.direction.advance? stream.lines) n cursor.position)

/-- Moves by `n` tokens against the direction. -/
def retreatBy (stream : TokenStream) (n : Nat) (cursor : Cursor) : Except StreamError Cursor :=
  cursor.moved (stepsFrom? (cursor.direction.retreat? stream.lines) n cursor.position)

def advance (stream : TokenStream) (cursor : Cursor) : Except StreamError Cursor :=
  cursor.moved (cursor.direction.advance? stream.lines cursor.position)

def retreat (stream : TokenStream) (cursor : Cursor) : Except StreamError Cursor :=
  cursor.moved (cursor.direction.retreat? stream.lines cursor.position)

/-- The cursor `n` tokens on, or what is wrong with going there. -/
def plus (stream : TokenStream) (n : Nat) (cursor : Cursor) : Except String Cursor :=
  (cursor.advanceBy stream n).mapError fun e => s!"cursor + {n}: " ++ e.message

/-- The cursor `n` tokens back, or what is wrong with going there. -/
def minus (stream : TokenStream) (n : Nat) (cursor : Cursor) : Except String Cursor :=
  (cursor.retreatBy stream n).mapError fun e => s!"cursor - {n}: " ++ e.message

/-- The token under the cursor. -/
def token? (stream : TokenStream) (cursor : Cursor) : Option Token :=
  cursor.position.token? stream.lines

def token (stream : TokenStream) (cursor : Cursor) : Except StreamError Token :=
  match cursor.token? stream with
  | some token => .ok token
  | none => .error .outOfRange

/-- The record under the cursor. -/
def line (stream : TokenStream) (cursor : Cursor) : Except StreamError LineRecord :=
  match cursor.position with
  | .within line _ => stream.line line
  | _ => .error .outOfRange

/-- What exchanging a record gives. -/
structure Replacement where
  previous : LineRecord
  stream : TokenStream
  cursor : Cursor

/-- Exchanges the record under the cursor. The cursor stays on the record, at the same token or at
its last one. -/
def replaceLine (stream : TokenStream) (record : LineRecord) (cursor : Cursor) :
    Except StreamError Replacement :=
  match cursor.position with
  | .within line token => do
    let (previous, stream) ← stream.replaceLine line record
    return ⟨previous, stream, { cursor with position := .within line (min token (record.size - 1)) }⟩
  | _ => .error .outOfRange

/-- Walks on, at most `fuel` steps, putting the record and the token at each step in front of
those seen before. -/
def walkOnto (stream : TokenStream) : Nat → List (LineRecord × Token) → Cursor →
    Except StreamError (List (LineRecord × Token) × Cursor)
  | 0, seen, cursor => .ok (seen, cursor)
  | fuel + 1, seen, cursor =>
    if cursor.isEnd then .ok (seen, cursor)
    else
      match cursor.line stream, cursor.token stream, cursor.advance stream with
      | .ok record, .ok token, .ok next => walkOnto stream fuel ((record, token) :: seen) next
      | .error e, _, _ => .error e
      | _, .error e, _ => .error e
      | _, _, .error e => .error e

/-- The records and tokens from a cursor to its end, and the cursor there. A walk has no more
steps than the stream has tokens. -/
def walk (stream : TokenStream) (cursor : Cursor) :
    Except StreamError (List (LineRecord × Token) × Cursor) :=
  match walkOnto stream (TokenStream.countTokens stream.lines + 1) [] cursor with
  | .ok (seen, last) => .ok (seen.reverse, last)
  | .error e => .error e

/-- A cursor in words. -/
def describe (cursor : Cursor) : String :=
  "RawCursor \x7b position: " ++ cursor.position.describe ++ " \x7d"

end Cursor

end Lineation
