import Lineation.Proofs.TokenStream.Index
import Lineation.Proofs.TokenStream.Size
import Lineation.TokenStream.Editor

/-!
# Editing keeps the cursor on a token

Whatever is done through a cursor, it stands on a token of the stream or past the last one of its
direction, and the stream keeps count of its tokens (`Editor.Sound`). A record that is exchanged
for a shorter one does not leave the cursor behind its end.

* `Direction.exists_getElem?_row_iff`: the places of a row are the tokens and the end.
* `Cursor.replaceLine_eq_ok_iff`: when a record is exchanged, and what is there afterwards.
* `Editor.Sound.perform`: an action keeps an editor sound.
* `Editor.Sound.run`: so do any actions.
* `Editor.Sound.exchange`: what an exchange changes.
* `Editor.run_keeps_place`: what any actions keep, and what one more does.
-/

namespace Lineation

/-- A position that names a token. -/
def Position.IsToken (lines : Array LineRecord) (p : Position) : Prop :=
  ∃ line token, p = .within line token ∧
    ∃ record, lines[line]? = some record ∧ token < record.size

namespace Direction

variable {lines : Array LineRecord} {direction : Direction} {p : Position}

theorem mem_places_iff : p ∈ direction.places lines ↔ p.IsToken lines := by
  have hForward : p ∈ Position.places 0 lines.toList ↔ p.IsToken lines := by
    simp only [Position.mem_places, Nat.zero_add, Array.getElem?_toList, Position.IsToken]
  cases direction with
  | forward => exact hForward
  | backward => rw [places, List.mem_reverse, hForward]

/-- The places that a cursor can stand on. -/
theorem exists_getElem?_row_iff :
    (∃ i, (direction.row lines)[i + 1]? = some p) ↔
      p = direction.sentinel ∨ p.IsToken lines := by
  have hMem : (∃ i, (direction.row lines)[i + 1]? = some p) ↔
      p ∈ direction.places lines ++ [direction.sentinel] := by
    rw [List.mem_iff_getElem?]
    rfl
  rw [hMem, List.mem_append, mem_places_iff, List.mem_singleton, or_comm]

end Direction

namespace Cursor

variable {stream : TokenStream} {cursor : Cursor} {record : LineRecord}
  {replacement : Replacement}

theorem replaceLine_eq_ok_iff :
    cursor.replaceLine stream record = .ok replacement ↔
      record.isEmpty = false ∧ ∃ line token previous,
        cursor.position = .within line token ∧ stream.lines[line]? = some previous ∧
        replacement = ⟨previous,
          ⟨stream.lines.setIfInBounds line record, stream.size - previous.size + record.size⟩,
          { cursor with position := .within line (min token (record.size - 1)) }⟩ := by
  unfold replaceLine
  cases hPosition : cursor.position with
  | beforeFirst => simp
  | pastLast => simp
  | within line token =>
    dsimp only [bind, Except.bind, pure, Except.pure]
    cases hReplace : stream.replaceLine line record with
    | error e =>
      constructor
      · intro hOk
        cases hOk
      · rintro ⟨hNonempty, _, _, previous, hWithin, hLine, -⟩
        cases hWithin
        rw [TokenStream.replaceLine_eq_ok_iff.mpr ⟨hNonempty, hLine, rfl⟩] at hReplace
        cases hReplace
    | ok result =>
      obtain ⟨hNonempty, hLine, hStream⟩ := TokenStream.replaceLine_eq_ok_iff.mp hReplace
      constructor
      · intro hOk
        cases hOk
        exact ⟨hNonempty, line, token, result.1, rfl, hLine, by rw [← hStream]⟩
      · rintro ⟨-, _, _, previous, hWithin, hFound, rfl⟩
        cases hWithin
        cases hLine.symm.trans hFound
        rw [← hStream]

theorem exists_token?_and_line_of_isToken (h : cursor.position.IsToken stream.lines) :
    ∃ line token, cursor.position = .within line token ∧
      (∃ found, cursor.token? stream = some found) ∧ ∃ record, cursor.line stream = .ok record := by
  obtain ⟨line, token, hPosition, record, hLine, hToken⟩ := h
  refine ⟨line, token, hPosition, ⟨record.tokens[token], ?_⟩, record, ?_⟩
  · rw [token?, hPosition, Position.token?, hLine]
    exact Array.getElem?_eq_getElem hToken
  · rw [Cursor.line, hPosition]
    dsimp only
    rw [TokenStream.line, hLine]

end Cursor

namespace Editor

variable {editor : Editor} {action : CursorAction}

/-- The stream keeps count of its tokens, and the cursor stands on one of them or at the end of its
direction. -/
structure Sound (editor : Editor) : Prop where
  counted : editor.stream.Counted
  placed : editor.cursor.position = editor.cursor.direction.sentinel ∨
    editor.cursor.position.IsToken editor.stream.lines

/-- A cursor that has just been made. -/
theorem sound_of_new {stream : TokenStream} (hCounted : stream.Counted) {direction : Direction}
    {cursor : Cursor} (h : cursor = Cursor.start stream direction ∨ cursor = Cursor.finish direction) :
    Sound ⟨stream, cursor⟩ := by
  refine ⟨hCounted, ?_⟩
  rcases h with rfl | rfl
  · obtain ⟨hDirection, hRow⟩ := Cursor.advanceBy_start_eq_ok_iff.mp
      (show (Cursor.start stream direction).advanceBy stream 0 = .ok (Cursor.start stream direction)
        from rfl)
    exact Direction.exists_getElem?_row_iff.mp ⟨0, hRow⟩
  · exact Or.inl rfl

theorem perform_replaceLine (editor : Editor) (record : LineRecord) :
    editor.perform (.replaceLine record) =
      editor.exchange (editor.cursor.replaceLine editor.stream record) := rfl

/-- An action that is refused changes nothing. -/
theorem perform_error (e : StreamError) (h : (editor.perform action).1 = .error e) :
    (editor.perform action).2 = editor := by
  have hMove : ∀ result, (editor.move result).1 = .error e → (editor.move result).2 = editor := by
    rintro (_ | _) hError
    · rfl
    · cases hError
  cases action with
  | replaceLine record =>
    rw [perform_replaceLine] at h ⊢
    cases hReplace : editor.cursor.replaceLine editor.stream record with
    | ok replacement =>
      rw [hReplace] at h
      cases h
    | error _ => rfl
  | _ => exact hMove _ h

/-- A move changes neither the direction nor the stream. -/
theorem move_moved_frame (editor : Editor) (position? : Option Position) :
    (editor.move (editor.cursor.moved position?)).2.cursor.direction = editor.cursor.direction ∧
      (editor.move (editor.cursor.moved position?)).2.stream = editor.stream := by
  cases position? <;> exact ⟨rfl, rfl⟩

theorem Sound.move (h : editor.Sound) {position? : Option Position}
    (hPlaced : ∀ p, position? = some p →
      ∃ i, (editor.cursor.direction.row editor.stream.lines)[i + 1]? = some p) :
    Sound (editor.move (editor.cursor.moved position?)).2 := by
  cases position? with
  | none => exact h
  | some p => exact ⟨h.counted, Direction.exists_getElem?_row_iff.mp (hPlaced p rfl)⟩

/-- An exchange leaves the cursor on the record, which has a token where the cursor stands. -/
theorem Sound.replaceLine (h : editor.Sound) {record : LineRecord}
    {replacement : Cursor.Replacement}
    (hReplace : editor.cursor.replaceLine editor.stream record = .ok replacement) :
    Sound ⟨replacement.stream, replacement.cursor⟩ := by
  obtain ⟨hNonempty, line, token, previous, hPosition, hLine, rfl⟩ :=
    Cursor.replaceLine_eq_ok_iff.mp hReplace
  have hIndex := (Array.getElem?_eq_some_iff.mp hLine).1
  have hSize : record.size ≠ 0 := Position.isEmpty_eq_false_iff.mp hNonempty
  refine ⟨h.counted.exchange hLine record, Or.inr ⟨line, _, rfl, record, ?_, ?_⟩⟩
  · simp [hIndex]
  · omega

theorem Sound.perform (h : editor.Sound) (action : CursorAction) :
    Sound (editor.perform action).2 := by
  obtain ⟨i, hPlace⟩ := Direction.exists_getElem?_row_iff.mpr h.placed
  cases action with
  | advance =>
    refine h.move fun p hp => ⟨i + 1, ?_⟩
    rw [← Direction.advance?_getElem hPlace, hp]
  | retreat =>
    refine h.move fun p hp => ?_
    rw [Direction.retreat?_getElem hPlace] at hp
    obtain ⟨hNonzero, hp⟩ := Option.ite_none_left_eq_some.mp hp
    exact ⟨i - 1, by rwa [Nat.sub_add_cancel (Nat.pos_of_ne_zero hNonzero)]⟩
  | advanceBy n =>
    refine h.move fun p hp => ⟨i + n, ?_⟩
    rw [Nat.add_right_comm, ← Direction.stepsFrom?_advance? hPlace, hp]
  | retreatBy n =>
    refine h.move fun p hp => ⟨i - n, ?_⟩
    rw [Direction.stepsFrom?_retreat? hPlace] at hp
    exact (Option.ite_none_right_eq_some.mp hp).2
  | replaceLine record =>
    rw [perform_replaceLine]
    cases hReplace : editor.cursor.replaceLine editor.stream record with
    | ok replacement => exact h.replaceLine hReplace
    | error e => exact h

theorem Sound.run (h : editor.Sound) (actions : List CursorAction) :
    Sound (editor.run actions) := by
  induction actions generalizing editor with
  | nil => exact h
  | cons action actions ih => exact ih (h.perform action)

theorem direction_perform (editor : Editor) (action : CursorAction) :
    (editor.perform action).2.cursor.direction = editor.cursor.direction := by
  cases action with
  | replaceLine record =>
    rw [perform_replaceLine]
    cases hReplace : editor.cursor.replaceLine editor.stream record with
    | ok replacement =>
      obtain ⟨-, _, _, _, _, _, rfl⟩ := Cursor.replaceLine_eq_ok_iff.mp hReplace
      rfl
    | error e => rfl
  | _ => exact (editor.move_moved_frame _).1

theorem direction_run (editor : Editor) (actions : List CursorAction) :
    (editor.run actions).cursor.direction = editor.cursor.direction := by
  induction actions generalizing editor with
  | nil => rfl
  | cons action actions ih => exact (ih _).trans (direction_perform editor action)

/-- Only an exchange changes the stream. -/
theorem stream_perform_of_move (editor : Editor) (h : ∀ record, action ≠ .replaceLine record) :
    (editor.perform action).2.stream = editor.stream := by
  cases action with
  | replaceLine record => exact absurd rfl (h record)
  | _ => exact (editor.move_moved_frame _).2

/-- An exchange is made when the cursor is not at its end and the new record has a token. -/
theorem Sound.exists_exchange_iff (h : editor.Sound) (record : LineRecord) :
    (∃ answer, (editor.perform (.replaceLine record)).1 = .ok answer) ↔
      editor.cursor.position ≠ editor.cursor.direction.sentinel ∧ record.size ≠ 0 := by
  rw [perform_replaceLine]
  constructor
  · rintro ⟨answer, hOk⟩
    cases hReplace : editor.cursor.replaceLine editor.stream record with
    | error e =>
      rw [hReplace] at hOk
      cases hOk
    | ok replacement =>
      obtain ⟨hNonempty, line, token, previous, hPosition, -, -⟩ :=
        Cursor.replaceLine_eq_ok_iff.mp hReplace
      refine ⟨?_, ?_⟩
      · rw [hPosition]
        cases editor.cursor.direction <;> simp [Direction.sentinel]
      · exact Position.isEmpty_eq_false_iff.mp hNonempty
  · rintro ⟨hPosition, hSize⟩
    obtain ⟨line, token, hWithin, previous, hLine, -⟩ := h.placed.resolve_left hPosition
    have hNonempty : record.isEmpty = false := Position.isEmpty_eq_false_iff.mpr hSize
    rw [Cursor.replaceLine_eq_ok_iff.mpr ⟨hNonempty, line, token, previous, hWithin, hLine, rfl⟩]
    exact ⟨some previous, rfl⟩

/-- What an exchange does: the record under the cursor is the new one and no other record changes,
the old record is given back, and the cursor is on the new record, at the same token or at the
last one. Neither difference that is taken goes below zero. -/
theorem Sound.exchange (h : editor.Sound) {record : LineRecord} {answer : Option LineRecord}
    (hOk : (editor.perform (.replaceLine record)).1 = .ok answer) :
    ∃ line token previous, editor.cursor.position = .within line token ∧
      editor.stream.lines[line]? = some previous ∧ answer = some previous ∧
      (editor.perform (.replaceLine record)).2.stream.lines.toList =
        editor.stream.lines.toList.set line record ∧
      (editor.perform (.replaceLine record)).2.cursor.position =
        .within line (min token (record.size - 1)) ∧
      1 ≤ record.size ∧ previous.size ≤ editor.stream.size ∧
      (editor.perform (.replaceLine record)).2.stream.Counted := by
  have hCounted := (h.perform (.replaceLine record)).counted
  have hSize := ((h.exists_exchange_iff record).mp ⟨answer, hOk⟩).2
  rw [perform_replaceLine] at hOk hCounted ⊢
  cases hReplace : editor.cursor.replaceLine editor.stream record with
  | error e =>
    rw [hReplace] at hOk
    cases hOk
  | ok replacement =>
    rw [hReplace] at hCounted
    obtain ⟨-, line, token, previous, hPosition, hLine, rfl⟩ :=
      Cursor.replaceLine_eq_ok_iff.mp hReplace
    rw [hReplace] at hOk
    cases hOk
    exact ⟨line, token, previous, hPosition, hLine, rfl, Array.toList_setIfInBounds, rfl,
      Nat.pos_of_ne_zero hSize, h.counted.le_size hLine, hCounted⟩

/-- After any actions through a cursor, it stands on a token or at the end of its direction, never
before the first position of its direction, and the size is that of the records. One more action
that is refused changes nothing, a move does not change the stream, and an exchange changes one
record only. -/
theorem run_keeps_place (stream : TokenStream)
    (hSize : stream.size = (stream.lines.toList.map LineRecord.size).sum) (direction : Direction)
    (cursor : Cursor)
    (hCursor : cursor = Cursor.start stream direction ∨ cursor = Cursor.finish direction)
    (actions : List CursorAction) :
    let editor := run ⟨stream, cursor⟩ actions
    (editor.cursor.position = direction.sentinel ∨
      ∃ line token, editor.cursor.position = .within line token ∧
        (∃ found, editor.cursor.token? editor.stream = some found) ∧
        ∃ record, editor.cursor.line editor.stream = .ok record) ∧
    editor.cursor.position ≠ direction.barrier ∧
    editor.stream.size = (editor.stream.lines.toList.map LineRecord.size).sum ∧
    (∀ action e, (editor.perform action).1 = .error e → (editor.perform action).2 = editor) ∧
    (∀ action, (∀ record, action ≠ .replaceLine record) →
      (editor.perform action).2.stream = editor.stream) ∧
    ∀ record, ((∃ answer, (editor.perform (.replaceLine record)).1 = .ok answer) ↔
        editor.cursor.position ≠ direction.sentinel ∧ record.size ≠ 0) ∧
      ∀ answer, (editor.perform (.replaceLine record)).1 = .ok answer →
        ∃ line token previous, editor.cursor.position = .within line token ∧
          editor.stream.lines[line]? = some previous ∧ answer = some previous ∧
          (editor.perform (.replaceLine record)).2.stream.lines.toList =
            editor.stream.lines.toList.set line record ∧
          (editor.perform (.replaceLine record)).2.cursor.position =
            .within line (min token (record.size - 1)) ∧
          1 ≤ record.size ∧ previous.size ≤ editor.stream.size ∧
          (editor.perform (.replaceLine record)).2.stream.size =
            ((editor.perform (.replaceLine record)).2.stream.lines.toList.map
              LineRecord.size).sum := by
  intro editor
  have hSound : editor.Sound := (sound_of_new hSize hCursor).run actions
  have hDirection : editor.cursor.direction = direction := by
    rw [direction_run]
    rcases hCursor with rfl | rfl <;> rfl
  have hPlaced := hSound.placed
  rw [hDirection] at hPlaced
  refine ⟨hPlaced.imp_right Cursor.exists_token?_and_line_of_isToken, ?_, hSound.counted,
    fun _ => perform_error, fun _ => stream_perform_of_move editor, fun record => ⟨?_, ?_⟩⟩
  · obtain ⟨i, hRow⟩ := Direction.exists_getElem?_row_iff.mpr hPlaced
    exact Direction.ne_barrier_of_getElem hRow
  · rw [← hDirection]
    exact hSound.exists_exchange_iff record
  · exact fun _ => hSound.exchange

/-- A cursor on the last of three tokens, whose record is exchanged for a shorter one beside a
record without tokens. -/
theorem run_keeps_place_of_shorter_record :
    let token : Token := { text := "a" }
    let stream := TokenStream.ofRecords [⟨1, "", #[]⟩, ⟨2, "aaa", #[token, token, token]⟩]
    let actions : List CursorAction := [.retreat, .replaceLine ⟨2, "a", #[token]⟩, .retreat]
    (stream.size = (stream.lines.toList.map LineRecord.size).sum ∧
      (Cursor.finish .forward = Cursor.start stream .forward ∨
        Cursor.finish .forward = Cursor.finish .forward)) ∧
      (run ⟨stream, Cursor.finish .forward⟩ actions).cursor.position = .within 1 0 ∧
      (run ⟨stream, Cursor.finish .forward⟩ actions).cursor.position ≠ Direction.forward.barrier := by
  intro token stream actions
  have hSize : stream.size = (stream.lines.toList.map LineRecord.size).sum := rfl
  have hKeeps := run_keeps_place stream hSize .forward (Cursor.finish .forward) (Or.inr rfl) actions
  exact ⟨⟨hSize, Or.inr rfl⟩, rfl, hKeeps.2.1⟩

end Editor

end Lineation
