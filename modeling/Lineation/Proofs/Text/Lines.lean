import Mathlib.Algebra.Ring.Nat
import Mathlib.Data.List.Induction
import Lineation.Text.Lines

/-!
# Counting lines

The number of lines of a text is the number of its newlines, and one more if characters follow the
last of them (`Text.lineCount_eq`). The last character plays no part: a text has one line more than
there are newlines before it (`Text.lineCount_eq_dropLast`). Texts that end with newlines are as
many lines together as they are one by one (`Text.lineCount_join_append`).
-/

namespace Lineation.Text

theorem foldl_lineTally_step (tally : LineTally) (s : List Char) :
    s.foldl LineTally.step tally =
      ⟨tally.finished + s.count '\n',
        match s.getLast? with
        | none => tally.pending
        | some c => c ≠ '\n'⟩ := by
  induction s using List.reverseRecOn with
  | nil => rfl
  | append_singleton s c ih =>
    rw [List.foldl_append, ih, List.getLast?_concat]
    by_cases hc : c = '\n' <;> simp [LineTally.step, hc, Nat.add_assoc]

theorem lineCount_eq (text : String) :
    lineCount text = text.toList.count '\n' +
      match text.toList.getLast? with
      | none => 0
      | some c => if c = '\n' then 0 else 1 := by
  rw [lineCount_eq_foldl_toList, foldl_lineTally_step, LineTally.total]
  cases text.toList.getLast? with
  | none => simp
  | some c => by_cases hc : c = '\n' <;> simp [hc]

/-- Whatever the last character of a text is, it belongs to the last line. -/
theorem lineCount_eq_dropLast {text : String} (h : text.toList ≠ []) :
    lineCount text = text.toList.dropLast.count '\n' + 1 := by
  obtain ⟨front, c, hText⟩ := List.eq_nil_or_concat text.toList |>.resolve_left h
  rw [lineCount_eq, hText, List.concat_eq_append, List.dropLast_concat, List.getLast?_concat,
    List.count_append]
  by_cases hc : c = '\n' <;> simp [hc]

/-- A text that ends with a newline is as many lines whatever follows it. -/
theorem lineCount_append {front : String} (hEnd : front.toList.getLast? = some '\n')
    (rest : String) : lineCount (front ++ rest) = lineCount front + lineCount rest := by
  simp only [lineCount_eq, String.toList_append, List.count_append, List.getLast?_append, hEnd]
  cases rest.toList.getLast? with
  | none => simp
  | some c => simp [Nat.add_assoc]

theorem lineCount_join_append {rows : List String}
    (hLast : ∀ row ∈ rows, row.toList.getLast? = some '\n') (rest : String) :
    lineCount (String.join rows ++ rest) = (rows.map lineCount).sum + lineCount rest := by
  induction rows with
  | nil => simp
  | cons row rows ih =>
    obtain ⟨hRow, hRows⟩ := List.forall_mem_cons.mp hLast
    rw [String.join_cons, String.append_assoc, lineCount_append hRow, ih hRows, List.map_cons,
      List.sum_cons, Nat.add_assoc]

/-- Texts that each end with their one newline are as many lines. -/
theorem lineCount_join {rows : List String} (hCount : ∀ row ∈ rows, row.toList.count '\n' = 1)
    (hLast : ∀ row ∈ rows, row.toList.getLast? = some '\n') :
    lineCount (String.join rows) = rows.length := by
  have hOne : ∀ row ∈ rows, lineCount row = 1 := by
    intro row hRow
    simp [lineCount_eq, hLast row hRow, hCount row hRow]
  calc lineCount (String.join rows)
      = (rows.map lineCount).sum + lineCount "" := by
        rw [← lineCount_join_append hLast, String.append_empty]
    _ = rows.length := by
        rw [List.map_congr_left hOne, List.map_const', List.sum_replicate_nat, lineCount_eq]
        simp

end Lineation.Text
