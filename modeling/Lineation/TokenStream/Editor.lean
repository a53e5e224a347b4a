import Lineation.TokenStream.Cursor

/-!
# Editing through a cursor

An editor is a stream with a cursor into it. Its actions move the cursor or exchange the record
under it; an action that is refused changes neither.

Main definitions:
* `Editor.perform`: does an action;
* `Editor.run`: does several in turn.
-/

namespace Lineation

/-- What can be done through a cursor. -/
inductive CursorAction where
  | advance
  | retreat
  | advanceBy (n : Nat)
  | retreatBy (n : Nat)
  | replaceLine (record : LineRecord)

/-- A stream with a cursor into it. -/
structure Editor where
  stream : TokenStream
  cursor : Cursor

namespace Editor

/-- What came of an action: the record that was taken out, if one was, or a refusal, and the editor
afterwards. -/
abbrev Outcome := Except StreamError (Option LineRecord) × Editor

/-- Takes up where a move leads, if it leads anywhere. -/
def move (editor : Editor) : Except StreamError Cursor → Outcome
  | .ok cursor => (.ok none, { editor with cursor })
  | .error e => (.error e, editor)

/-- Takes up an exchange, if it was made. -/
def exchange (editor : Editor) : Except StreamError Cursor.Replacement → Outcome
  | .ok replacement => (.ok (some replacement.previous), ⟨replacement.stream, replacement.cursor⟩)
  | .error e => (.error e, editor)

/-- Does an action. -/
def perform (editor : Editor) : CursorAction → Outcome
  | .advance => editor.move (editor.cursor.advance editor.stream)
  | .retreat => editor.move (editor.cursor.retreat editor.stream)
  | .advanceBy n => editor.move (editor.cursor.advanceBy editor.stream n)
  | .retreatBy n => editor.move (editor.cursor.retreatBy editor.stream n)
  | .replaceLine record => editor.exchange (editor.cursor.replaceLine editor.stream record)

/-- Does some actions in turn, whether or not they are refused. -/
def run (editor : Editor) (actions : List CursorAction) : Editor :=
  actions.foldl (fun editor action => (editor.perform action).2) editor

end Editor

end Lineation
