import Lineation.Proofs.TokenStream.Editing
import Lineation.TokenStream.Edit

/-!
# Edits keep count

The size of a stream is kept beside its records and is never counted anew by an edit of one record,
so it is right after an edit only if it was before. The cursor of an edit is any cursor: one that
stands on no record of the stream is refused.

* `TokenStream.performed`: all that an edit can do.
* `TokenStream.Counted.perform`, `TokenStream.Occupied.perform`: what an edit keeps.
* `TokenStream.performAll_keeps_count`: what any edits keep, and what one more does.
-/

namespace Lineation

/-- When an edit is not refused: a record that is put in has tokens, and one that is taken out is
there. -/
def StreamEdit.Accepted (lines : Array LineRecord) : StreamEdit → Prop
  | setLines _ => True
  | pushLine record => record.size ≠ 0
  | replaceLine index record => record.size ≠ 0 ∧ index < lines.size
  | replaceAt cursor record => record.size ≠ 0 ∧
      ∃ line token, cursor.position = .within line token ∧ line < lines.size

namespace TokenStream

variable {stream : TokenStream} {edit : StreamEdit} {index : Nat} {record previous : LineRecord}

/-- No record is without tokens. -/
def Occupied (stream : TokenStream) : Prop := ∀ record ∈ stream.lines, record.size ≠ 0

/-! ## What an edit does -/

/-- The stream with another record in the place of one of its own. -/
def exchanged (stream : TokenStream) (index : Nat) (previous record : LineRecord) : TokenStream :=
  ⟨stream.lines.setIfInBounds index record, stream.size - previous.size + record.size⟩

theorem perform_pushLine (h : record.size ≠ 0) :
    stream.perform (.pushLine record) =
      (.ok none, ⟨stream.lines.push record, stream.size + record.size⟩) := by
  have hNonempty := Position.isEmpty_eq_false_iff.mpr h
  simp [perform, pushLine, hNonempty]

theorem perform_replaceLine (h : record.size ≠ 0) (hLine : stream.lines[index]? = some previous) :
    stream.perform (.replaceLine index record) =
      (.ok (some previous), stream.exchanged index previous record) := by
  have hReplace := replaceLine_eq_ok_iff.mpr ⟨Position.isEmpty_eq_false_iff.mpr h, hLine, rfl⟩
  rw [perform, hReplace]
  rfl

/-- On a token, an exchange under a cursor is one at the index of the record. -/
theorem perform_replaceAt {cursor : Cursor} {token : Nat}
    (hPosition : cursor.position = .within index token) :
    stream.perform (.replaceAt cursor record) = stream.perform (.replaceLine index record) := by
  rw [perform, perform, Cursor.replaceLine, hPosition]
  dsimp only [bind, Except.bind, pure, Except.pure]
  cases stream.replaceLine index record <;> rfl

/-- What an edit does: it is refused and changes nothing, or it puts all records anew, adds a record
with tokens at the end, or exchanges a record for one with tokens. -/
inductive Performed (stream : TokenStream) (edit : StreamEdit) : Prop where
  | refused (e : StreamError) (hRefused : ¬ edit.Accepted stream.lines)
      (h : stream.perform edit = (.error e, stream))
  | set (lines : Array LineRecord) (hEdit : edit = .setLines lines)
      (h : stream.perform edit = (.ok none, ofLines lines))
  | pushed (record : LineRecord) (hAccepted : edit.Accepted stream.lines) (hSize : record.size ≠ 0)
      (h : stream.perform edit = (.ok none, ⟨stream.lines.push record, stream.size + record.size⟩))
  | exchanged (index : Nat) (record previous : LineRecord) (hAccepted : edit.Accepted stream.lines)
      (hSize : record.size ≠ 0) (hLine : stream.lines[index]? = some previous)
      (h : stream.perform edit = (.ok (some previous), stream.exchanged index previous record))

theorem performed_replaceLine (stream : TokenStream) (index : Nat) (record : LineRecord) :
    stream.Performed (.replaceLine index record) := by
  cases hLine : stream.lines[index]? with
  | none =>
    have hAbsent : ¬ index < stream.lines.size :=
      Nat.not_lt.mpr (Array.getElem?_eq_none_iff.mp hLine)
    have hRefused : ¬ (StreamEdit.replaceLine index record).Accepted stream.lines :=
      fun hAccepted => hAbsent hAccepted.2
    -- The record is looked at before the index.
    cases hEmpty : record.isEmpty with
    | true => exact .refused _ hRefused (by rw [perform, replaceLine, if_pos hEmpty])
    | false =>
      exact .refused _ hRefused (by rw [perform, replaceLine, if_neg (by simp [hEmpty]), hLine])
  | some previous =>
    have hIndex : index < stream.lines.size := (Array.getElem?_eq_some_iff.mp hLine).1
    by_cases h : record.size = 0
    · have hEmpty := Position.isEmpty_iff_size_eq_zero.mpr h
      exact .refused _ (fun hAccepted => hAccepted.1 h) (by rw [perform, replaceLine, if_pos hEmpty])
    · exact .exchanged index record previous ⟨h, hIndex⟩ h hLine (perform_replaceLine h hLine)

theorem performed (stream : TokenStream) (edit : StreamEdit) : stream.Performed edit := by
  cases edit with
  | setLines lines => exact .set lines rfl rfl
  | pushLine record =>
    by_cases h : record.size = 0
    · have hEmpty := Position.isEmpty_iff_size_eq_zero.mpr h
      exact .refused _ (fun hAccepted => hAccepted h) (by rw [perform, pushLine, if_pos hEmpty])
    · exact .pushed record h h (perform_pushLine h)
  | replaceLine index record => exact performed_replaceLine stream index record
  | replaceAt cursor record =>
    cases hPosition : cursor.position with
    | within line token =>
      -- The cursor stands on a record: as for an exchange by index.
      have hSame : stream.perform (.replaceAt cursor record) =
          stream.perform (.replaceLine line record) := perform_replaceAt hPosition
      have hAccepted : (StreamEdit.replaceAt cursor record).Accepted stream.lines ↔
          (StreamEdit.replaceLine line record).Accepted stream.lines := by
        simp [StreamEdit.Accepted, hPosition]
      cases performed_replaceLine stream line record with
      | refused e hRefused h => exact .refused e (mt hAccepted.mp hRefused) (hSame.trans h)
      | set lines hEdit _ => cases hEdit
      | pushed record hOk hSize h => exact .pushed record (hAccepted.mpr hOk) hSize (hSame.trans h)
      | exchanged index record previous hOk hSize hLine h =>
        exact .exchanged index record previous (hAccepted.mpr hOk) hSize hLine (hSame.trans h)
    | beforeFirst =>
      exact .refused _ (by simp [StreamEdit.Accepted, hPosition])
        (by rw [perform, Cursor.replaceLine, hPosition])
    | pastLast =>
      exact .refused _ (by simp [StreamEdit.Accepted, hPosition])
        (by rw [perform, Cursor.replaceLine, hPosition])

theorem exists_ok_iff_accepted (stream : TokenStream) (edit : StreamEdit) :
    (∃ answer, (stream.perform edit).1 = .ok answer) ↔ edit.Accepted stream.lines := by
  cases performed stream edit with
  | refused e hRefused h => simp [h, hRefused]
  | set lines hEdit h =>
    subst hEdit
    simp [h, StreamEdit.Accepted]
  | pushed record hAccepted _ h => simp [h, hAccepted]
  | exchanged index record previous hAccepted _ _ h => simp [h, hAccepted]

theorem perform_error {e : StreamError} (h : (stream.perform edit).1 = .error e) :
    (stream.perform edit).2 = stream := by
  cases performed stream edit with
  | refused _ _ hPerform => rw [hPerform]
  | set lines _ hPerform => cases (congrArg Prod.fst hPerform).symm.trans h
  | pushed record _ _ hPerform => cases (congrArg Prod.fst hPerform).symm.trans h
  | exchanged index record previous _ _ _ hPerform => cases (congrArg Prod.fst hPerform).symm.trans h

/-! ## What edits keep -/

theorem Counted.perform (hCounted : stream.Counted) (edit : StreamEdit) :
    (stream.perform edit).2.Counted := by
  cases performed stream edit with
  | refused e _ h => rwa [h]
  | set lines _ h =>
    rw [h]
    exact counted_ofLines lines
  | pushed record _ _ h =>
    rw [h]
    simp only [Counted] at hCounted ⊢
    rw [hCounted, Array.toList_push, List.map_append, List.sum_append, List.map_singleton,
      List.sum_singleton]
  | exchanged index record previous _ _ hLine h =>
    rw [h]
    exact hCounted.exchange hLine record

theorem Counted.performAll (hCounted : stream.Counted) (edits : List StreamEdit) :
    (stream.performAll edits).Counted := by
  induction edits generalizing stream with
  | nil => exact hCounted
  | cons edit edits ih => exact ih (hCounted.perform edit)

/-- Only an edit that puts all records anew can bring in a record without tokens. -/
theorem Occupied.perform (hOccupied : stream.Occupied)
    (hEdit : ∀ lines, edit ≠ .setLines lines) : (stream.perform edit).2.Occupied := by
  intro found hFound
  cases performed stream edit with
  | refused e _ h =>
    rw [h] at hFound
    exact hOccupied found hFound
  | set lines hSet _ => exact absurd hSet (hEdit lines)
  | pushed record _ hSize h =>
    rw [h] at hFound
    rcases Array.mem_push.mp hFound with hOld | rfl
    · exact hOccupied found hOld
    · exact hSize
  | exchanged index record previous _ hSize _ h =>
    rw [h] at hFound
    rcases Array.mem_or_eq_of_mem_setIfInBounds hFound with hOld | rfl
    · exact hOccupied found hOld
    · exact hSize

theorem Counted.isEmpty_iff (hCounted : stream.Counted) :
    stream.isEmpty = true ↔ stream.toList = [] := by
  rw [isEmpty, beq_iff_eq, hCounted.size_eq_length, List.length_eq_zero_iff]

/-- After any edits of a stream that is made empty or of records, the size is that of the records,
the stream is empty when it has no tokens, and what an exchange takes from the size is no more than
the size. One more edit that is refused changes nothing, and one that keeps the other records brings
in no record without tokens. -/
theorem performAll_keeps_count (stream : TokenStream)
    (hStart : stream = {} ∨ (∃ lines, stream = ofLines lines) ∨
      ∃ records, stream = ofRecords records)
    (edits : List StreamEdit) :
    let now := stream.performAll edits
    now.size = (now.lines.toList.map LineRecord.size).sum ∧
      (now.isEmpty = true ↔ now.toList = []) ∧
      (∀ (index : Nat) (previous : LineRecord),
        now.lines[index]? = some previous → previous.size ≤ now.size) ∧
      ∀ edit, ((∃ answer, (now.perform edit).1 = .ok answer) ↔ edit.Accepted now.lines) ∧
        (∀ e, (now.perform edit).1 = .error e → (now.perform edit).2 = now) ∧
        ((∀ lines, edit ≠ .setLines lines) → (∀ record ∈ now.lines, record.size ≠ 0) →
          ∀ record ∈ (now.perform edit).2.lines, record.size ≠ 0) := by
  intro now
  have hMade : stream.Counted := by
    rcases hStart with rfl | ⟨lines, rfl⟩ | ⟨records, rfl⟩
    · rfl
    · exact counted_ofLines lines
    · exact counted_ofLines records.toArray
  have hCounted : now.Counted := hMade.performAll edits
  refine ⟨hCounted, hCounted.isEmpty_iff, fun _ _ => hCounted.le_size, fun edit => ⟨?_, ?_, ?_⟩⟩
  · exact exists_ok_iff_accepted now edit
  · intro e hError
    exact perform_error hError
  · intro hEdit hOccupied
    exact Occupied.perform hOccupied hEdit

/-- A stream that is made of one record without tokens and gets one with two, which is exchanged for
one with a single token. -/
theorem performAll_keeps_count_of_refused_edits :
    let token : Token := { text := "a" }
    let stream := ofLines #[⟨1, "", #[]⟩]
    let edits : List StreamEdit := [.pushLine ⟨2, "", #[]⟩, .pushLine ⟨2, "aa", #[token, token]⟩,
      .replaceLine 9 ⟨2, "a", #[token]⟩, .replaceAt ⟨.forward, .within 1 1⟩ ⟨2, "a", #[token]⟩]
    (stream = {} ∨ (∃ lines, stream = ofLines lines) ∨ ∃ records, stream = ofRecords records) ∧
      (stream.performAll edits).size = 1 ∧ (stream.performAll edits).lines.size = 2 ∧
      (stream.performAll edits).size =
        ((stream.performAll edits).lines.toList.map LineRecord.size).sum := by
  intro token stream edits
  have hStart : stream = {} ∨ (∃ lines, stream = ofLines lines) ∨
      ∃ records, stream = ofRecords records := Or.inr (Or.inl ⟨_, rfl⟩)
  exact ⟨hStart, rfl, rfl, (performAll_keeps_count stream hStart edits).1⟩

end TokenStream

end Lineation
