import Lineation.Proofs.Tokenizer.Layout

/-!
# Texts that go on

A record is written when its line ends, and is left alone from then on. The end of a text ends more
than was ended before: the last word, a region that is still open, the last line. All this goes into
one record at most, so the records before the last are the same for every text that goes on, wherever
the first text was cut.

* `ReadsWhole.records_suffix_foldl`: reading characters only adds records.
* `ReadsWhole.exists_records_finish`: the end of a text adds one record at most.
-/

namespace Lineation

theorem Scan.exists_records_closeLine (s : Scan) :
    ∃ new, s.closeLine.records = new ++ s.records ∧ new.length ≤ 1 := by
  by_cases hTokens : s.tokens = []
  · rw [closeLine_of_tokens_eq_nil hTokens]
    exact ⟨[], rfl, by simp⟩
  · rw [closeLine_of_tokens_ne_nil hTokens]
    exact ⟨[_], rfl, by simp⟩

/-- The records are those of the lines that were ended. -/
theorem Reads.records_eq_of_lines {t : Tokenizer} {text text' : List Char} {s s' : Scan}
    {lines : List (List Stretch)} {current current' : List Stretch}
    (h : Reads t text s lines current) (h' : Reads t text' s' lines current') :
    s'.records = s.records := by
  rw [← List.reverse_inj, h'.records_eq, h.records_eq]

namespace ReadsWhole

variable {t : Tokenizer} {text : List Char} {s : Scan} {lines : List (List Stretch)}
  {current : List Stretch}

theorem records_read (h : ReadsWhole t text s lines current) (c : Char) :
    (t.read s c).records = s.records := by
  obtain ⟨current', hRead⟩ := h.read c
  exact h.toReads.records_eq_of_lines hRead.toReads

theorem records_settle (h : ReadsWhole t text s lines current) :
    (t.settle s).records = s.records := by
  obtain ⟨last, hSettle, -, -⟩ := h.settle
  exact h.toReads.records_eq_of_lines hSettle

theorem records_suffix_step (h : ReadsWhole t text s lines current) (c : Char) :
    s.records <:+ (t.step s c).records := by
  rw [← h.records_read c]
  unfold Tokenizer.step
  dsimp only
  split
  · split
    · obtain ⟨new, hRecords, -⟩ := (t.read s c).exists_records_closeLine
      exact ⟨new, hRecords.symm⟩
    · exact List.suffix_refl _
  · exact List.suffix_refl _

theorem records_suffix_foldl (h : ReadsWhole t text s lines current) (more : List Char) :
    s.records <:+ (more.foldl t.step s).records := by
  induction more generalizing text s lines current with
  | nil => exact List.suffix_refl _
  | cons c more ih =>
    obtain ⟨lines', current', hStep⟩ := h.step c
    exact (h.records_suffix_step c).trans (ih hStep)

theorem exists_records_finish (h : ReadsWhole t text s lines current) :
    ∃ new, (t.finish s).records = new ++ s.records ∧ new.length ≤ 1 := by
  rw [t.finish_eq, ← h.records_settle]
  split
  · exact ⟨[], rfl, by simp⟩
  · exact (t.settle s).exists_records_closeLine

end ReadsWhole

namespace Tokenizer

/-- The records of a text, but for the last one, are the first records of every text that goes on
from it. -/
theorem tokenize_records_dropLast_prefix (t : Tokenizer) (a b : String) :
    (t.tokenize a).records.dropLast <+: (t.tokenize (a ++ b)).records := by
  obtain ⟨lines, current, hFirst⟩ := exists_readsWhole t a.toList
  obtain ⟨lines', current', hBoth⟩ := exists_readsWhole t (a.toList ++ b.toList)
  obtain ⟨last, hLast, hOne⟩ := hFirst.exists_records_finish
  obtain ⟨rest, hRest, -⟩ := hBoth.exists_records_finish
  -- What was written of the first text before its end is what is kept of it.
  have hKept : (t.tokenize a).records.dropLast <+:
      (a.toList.foldl t.step {}).records.reverse := by
    have hRecords : (t.tokenize a).records =
        (a.toList.foldl t.step {}).records.reverse ++ last.reverse := by
      rw [← List.reverse_append, ← hLast]
      rfl
    rw [hRecords]
    cases last with
    | nil =>
      rw [List.reverse_nil, List.append_nil]
      exact List.dropLast_prefix _
    | cons record more =>
      have hNil : more = [] := List.eq_nil_of_length_eq_zero (by simpa using hOne)
      exact ⟨[], by rw [List.append_nil, hNil, List.reverse_singleton, List.dropLast_concat]⟩
  have hWritten : (a.toList.foldl t.step {}).records <:+
      ((a.toList ++ b.toList).foldl t.step {}).records := by
    rw [List.foldl_append]
    exact hFirst.records_suffix_foldl b.toList
  have hWhole : (t.tokenize (a ++ b)).records =
      (rest ++ ((a.toList ++ b.toList).foldl t.step {}).records).reverse := by
    rw [← hRest, ← String.toList_append]
    rfl
  rw [hWhole]
  exact hKept.trans (List.reverse_prefix.mpr (hWritten.trans (List.suffix_append _ _)))

end Tokenizer

end Lineation
