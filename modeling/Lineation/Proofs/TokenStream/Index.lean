import Lineation.Proofs.TokenStream.Walk

/-!
# Cursors as an index

A cursor that has taken `n` steps from the start of its direction stands on the `n`-th token of that
direction, or past the last one. It can take as many steps as there are tokens, and back as many as
it has taken.

* `Cursor.advanceBy_start`: where a cursor is after some steps, as a place of `Direction.row`.
* `Cursor.retreatBy_of_advanceBy`: where it is when it has taken some of them back.
* `TokenStream.nth?_eq`: the tokens counted through the records are those of the flat list.
* `TokenStream.advanceBy_indexes_toList`: all of this for both directions.
-/

namespace Lineation

namespace Cursor

variable {stream : TokenStream} {direction : Direction} {cursor : Cursor} {n m : Nat}

theorem moved_eq_ok_iff {position? : Option Position} {moved : Cursor} :
    cursor.moved position? = .ok moved ↔
      ∃ p, position? = some p ∧ moved = { cursor with position := p } := by
  cases position? with
  | none => simp [Cursor.moved]
  | some p => simp [Cursor.moved, eq_comm]

theorem advanceBy_start (stream : TokenStream) (direction : Direction) (n : Nat) :
    (start stream direction).advanceBy stream n =
      (start stream direction).moved ((direction.row stream.lines)[n + 1]?) := by
  have hStart : (direction.row stream.lines)[1]? = some (direction.start stream.lines) := by
    rw [← Direction.advance?_getElem (Direction.getElem?_row_zero stream.lines direction),
      Direction.advance?_barrier]
  rw [advanceBy, start, Direction.stepsFrom?_advance? hStart, Nat.add_comm]

theorem advanceBy_start_eq_ok_iff :
    (start stream direction).advanceBy stream n = .ok cursor ↔
      cursor.direction = direction ∧
        (direction.row stream.lines)[n + 1]? = some cursor.position := by
  rw [advanceBy_start, moved_eq_ok_iff]
  constructor
  · rintro ⟨p, hp, rfl⟩
    exact ⟨rfl, hp⟩
  · rintro ⟨rfl, hp⟩
    exact ⟨_, hp, rfl⟩

theorem exists_advanceBy_start_iff :
    (∃ cursor, (start stream direction).advanceBy stream n = .ok cursor) ↔
      n ≤ stream.toList.length := by
  have hLength := Direction.length_places_eq stream direction
  simp only [advanceBy_start_eq_ok_iff]
  constructor
  · rintro ⟨cursor, -, hp⟩
    have hn := (List.getElem?_eq_some_iff.mp hp).1
    rw [Direction.length_row] at hn
    omega
  · intro hn
    have hRow : n + 1 < (direction.row stream.lines).length := by
      rw [Direction.length_row]
      omega
    exact ⟨⟨direction, _⟩, rfl, List.getElem?_eq_getElem hRow⟩

/-- The end of a direction is one place of its row only. -/
theorem eq_finish_iff (h : (start stream direction).advanceBy stream n = .ok cursor) :
    cursor = finish direction ↔ n = stream.toList.length := by
  have hLength := Direction.length_places_eq stream direction
  obtain ⟨rfl, hp⟩ := advanceBy_start_eq_ok_iff.mp h
  constructor
  · intro hFinish
    have hPosition : cursor.position = cursor.direction.sentinel := congrArg position hFinish
    have hNext := Direction.advance?_getElem hp
    rw [hPosition, Direction.advance?_sentinel] at hNext
    have hLast := List.getElem?_eq_none_iff.mp hNext.symm
    have hn := (List.getElem?_eq_some_iff.mp hp).1
    rw [Direction.length_row] at hLast hn
    omega
  · rintro rfl
    rw [← hLength, Direction.getElem?_row_last] at hp
    rw [finish, Option.some.inj hp]

theorem token?_of_advanceBy (h : (start stream direction).advanceBy stream n = .ok cursor) :
    cursor.token? stream = (direction.tokens stream)[n]? := by
  obtain ⟨rfl, hp⟩ := advanceBy_start_eq_ok_iff.mp h
  exact Direction.token?_getElem hp

theorem retreatBy_of_advanceBy (h : (start stream direction).advanceBy stream n = .ok cursor) :
    cursor.retreatBy stream m =
      if m ≤ n then (start stream direction).advanceBy stream (n - m) else .error .outOfRange := by
  obtain ⟨rfl, hp⟩ := advanceBy_start_eq_ok_iff.mp h
  rw [retreatBy, Direction.stepsFrom?_retreat? hp, advanceBy_start]
  split
  · cases hBack : (cursor.direction.row stream.lines)[n - m + 1]? <;> rfl
  · rfl

end Cursor

namespace TokenStream

theorem nthFrom?_eq (records : List LineRecord) (n : Nat) :
    nthFrom? records n = (records.flatMap fun record => record.tokens.toList)[n]? := by
  induction records generalizing n with
  | nil => rfl
  | cons record records ih =>
    rw [nthFrom?, List.flatMap_cons]
    split
    · rename_i hHere
      have hToken : n < record.tokens.toList.length := hHere
      rw [List.getElem?_append_left hToken, Array.getElem?_toList]
    · rename_i hLater
      have hToken : record.tokens.toList.length ≤ n := Nat.le_of_not_lt hLater
      rw [ih, List.getElem?_append_right hToken]
      rfl

theorem nth?_eq (stream : TokenStream) (n : Nat) : stream.nth? n = stream.toList[n]? :=
  nthFrom?_eq _ n

/-- From the start of either direction as many steps can be taken as there are tokens. They lead to
the end of the direction if there is no token left, and else to the token with that place, counted
from where the direction starts. As many steps back can be taken as there were, and lead to where
fewer steps lead. -/
theorem advanceBy_indexes_toList (stream : TokenStream) (hSize : stream.size = stream.toList.length)
    (n m : Nat) :
    (∀ direction,
      ((∃ cursor, (Cursor.start stream direction).advanceBy stream n = .ok cursor) ↔
        n ≤ stream.size) ∧
      ∀ cursor, (Cursor.start stream direction).advanceBy stream n = .ok cursor →
        (cursor = Cursor.finish direction ↔ n = stream.size) ∧
        ((∃ back, cursor.retreatBy stream m = .ok back) ↔ m ≤ n) ∧
        (m ≤ n → cursor.retreatBy stream m =
          (Cursor.start stream direction).advanceBy stream (n - m))) ∧
    (∀ cursor, (Cursor.start stream .forward).advanceBy stream n = .ok cursor → n < stream.size →
      ∃ token, stream.toList[n]? = some token ∧ cursor.token? stream = some token ∧
        stream.nth? n = some token) ∧
    (∀ cursor, (Cursor.start stream .backward).advanceBy stream n = .ok cursor → n < stream.size →
      ∃ token, stream.toList[stream.size - 1 - n]? = some token ∧
        cursor.token? stream = some token) ∧
    (stream.size ≤ n → stream.nth? n = none) := by
  rw [hSize]
  refine ⟨fun direction => ⟨Cursor.exists_advanceBy_start_iff, fun cursor hCursor => ?_⟩, ?_, ?_, ?_⟩
  · have hBack := Cursor.retreatBy_of_advanceBy (m := m) hCursor
    refine ⟨Cursor.eq_finish_iff hCursor, ?_, fun hm => by rw [hBack, if_pos hm]⟩
    have hn := Cursor.exists_advanceBy_start_iff.mp ⟨cursor, hCursor⟩
    rw [hBack]
    constructor
    · rintro ⟨back, hOk⟩
      by_contra hm
      rw [if_neg hm] at hOk
      cases hOk
    · intro hm
      rw [if_pos hm]
      exact Cursor.exists_advanceBy_start_iff.mpr (by omega)
  · intro cursor hCursor hn
    refine ⟨stream.toList[n], List.getElem?_eq_getElem hn, ?_, ?_⟩
    · rw [Cursor.token?_of_advanceBy hCursor]
      exact List.getElem?_eq_getElem hn
    · rw [nth?_eq]
      exact List.getElem?_eq_getElem hn
  · intro cursor hCursor hn
    have hMirror : stream.toList.length - 1 - n < stream.toList.length := by omega
    refine ⟨stream.toList[stream.toList.length - 1 - n], List.getElem?_eq_getElem hMirror, ?_⟩
    rw [Cursor.token?_of_advanceBy hCursor, Direction.tokens, List.getElem?_reverse hn]
    exact List.getElem?_eq_getElem hMirror
  · intro hn
    rw [nth?_eq]
    exact List.getElem?_eq_none hn

/-- A record without tokens between two that have some: the second step goes over it. -/
theorem advanceBy_indexes_over_record_without_tokens :
    let stream := ofRecords
      [⟨1, "ab", #[{ text := "a" }, { text := "b" }]⟩, ⟨2, "", #[]⟩, ⟨3, "c", #[{ text := "c" }]⟩]
    stream.size = stream.toList.length ∧
      ∃ cursor, (Cursor.start stream .forward).advanceBy stream 2 = .ok cursor ∧
        cursor.retreatBy stream 1 = (Cursor.start stream .forward).advanceBy stream 1 ∧
        ∃ token, stream.toList[2]? = some token ∧ cursor.token? stream = some token ∧
          stream.nth? 2 = some token := by
  intro stream
  have hSize : stream.size = stream.toList.length := rfl
  obtain ⟨hBoth, hForward, -⟩ := advanceBy_indexes_toList stream hSize 2 1
  obtain ⟨hSteps, hBack⟩ := hBoth .forward
  obtain ⟨cursor, hCursor⟩ := hSteps.mpr (by decide)
  exact ⟨hSize, cursor, hCursor, (hBack cursor hCursor).2.2 (by decide),
    hForward cursor hCursor (by decide)⟩

end TokenStream

end Lineation
