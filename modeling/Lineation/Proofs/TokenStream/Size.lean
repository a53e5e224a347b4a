import Mathlib.Algebra.GroupWithZero.Nat
import Lineation.TokenStream.Basic

/-!
# The size of a stream

The size that is kept beside the records is the number of their tokens (`TokenStream.Counted`). It
is so when a stream is made of records, and an exchange of records keeps it so.
-/

namespace Lineation.TokenStream

variable {stream next : TokenStream} {lines : Array LineRecord} {index : Nat}
  {record previous : LineRecord}

/-- The size is the sum of the sizes of the records. -/
def Counted (stream : TokenStream) : Prop :=
  stream.size = (stream.lines.toList.map LineRecord.size).sum

theorem countTokens_eq_sum (lines : Array LineRecord) :
    countTokens lines = (lines.toList.map LineRecord.size).sum := by
  rw [countTokens, ← Array.foldl_toList, List.sum_eq_foldl, List.foldl_map]

theorem counted_ofLines (lines : Array LineRecord) : (ofLines lines).Counted :=
  countTokens_eq_sum lines

theorem length_toList (stream : TokenStream) :
    stream.toList.length = countTokens stream.lines := by
  rw [countTokens_eq_sum, toList, List.length_flatMap]
  rfl

theorem Counted.size_eq_length (hCounted : stream.Counted) :
    stream.size = stream.toList.length := by
  rw [hCounted, length_toList, countTokens_eq_sum]

/-- The records of a stream around the one at an index, and with another one in its place. -/
theorem exists_toList_eq_of_getElem? (h : lines[index]? = some previous) :
    ∃ before after, lines.toList = before ++ previous :: after ∧ before.length = index ∧
      ∀ record, (lines.setIfInBounds index record).toList = before ++ record :: after := by
  obtain ⟨hIndex, rfl⟩ := Array.getElem?_eq_some_iff.mp h
  refine ⟨lines.toList.take index, lines.toList.drop (index + 1), ?_, ?_, fun record => ?_⟩
  · rw [← Array.getElem_toList, ← List.drop_eq_getElem_cons, List.take_append_drop]
  · simp [Nat.min_eq_left (Nat.le_of_lt hIndex)]
  · rw [Array.toList_setIfInBounds, List.set_eq_take_append_cons_drop, if_pos (by simpa using hIndex)]

theorem Counted.le_size (hCounted : stream.Counted) (h : stream.lines[index]? = some previous) :
    previous.size ≤ stream.size := by
  obtain ⟨before, after, hLines, -, -⟩ := exists_toList_eq_of_getElem? h
  rw [hCounted, hLines, List.map_append, List.sum_append, List.map_cons, List.sum_cons]
  omega

theorem Counted.exchange (hCounted : stream.Counted) (h : stream.lines[index]? = some previous)
    (record : LineRecord) :
    Counted ⟨stream.lines.setIfInBounds index record,
      stream.size - previous.size + record.size⟩ := by
  obtain ⟨before, after, hLines, -, hSet⟩ := exists_toList_eq_of_getElem? h
  rw [Counted, hLines, List.map_append, List.sum_append, List.map_cons, List.sum_cons] at hCounted
  simp only [Counted, hSet, List.map_append, List.sum_append, List.map_cons, List.sum_cons]
  omega

theorem replaceLine_eq_ok_iff :
    stream.replaceLine index record = .ok (previous, next) ↔
      record.isEmpty = false ∧ stream.lines[index]? = some previous ∧
        next = ⟨stream.lines.setIfInBounds index record,
          stream.size - previous.size + record.size⟩ := by
  unfold replaceLine
  cases hEmpty : record.isEmpty with
  | true => simp
  | false =>
    cases hLine : stream.lines[index]? with
    | none => simp
    | some found =>
      simp only [Bool.false_eq_true, if_false, Except.ok.injEq, Prod.mk.injEq, Option.some.injEq,
        true_and]
      constructor
      · rintro ⟨rfl, rfl⟩
        exact ⟨rfl, rfl⟩
      · rintro ⟨rfl, rfl⟩
        exact ⟨rfl, rfl⟩

end Lineation.TokenStream
