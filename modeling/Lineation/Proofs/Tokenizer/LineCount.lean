import Mathlib.Algebra.BigOperators.Group.List.Basic
import Lineation.Proofs.Files.Checks
import Lineation.Proofs.Tokenizer.Layout
import Lineation.Proofs.Tokenizer.Linewise

/-!
# Lines of a text and lines that are counted

The lines of a text are counted twice: once by its newlines, when a file is read, and once by the
records, when the text is split. A region can take newlines that end no record, so the second count
falls short of the first by one for each of these (`Layout.totalLines_add_inner`), and by nothing if
there are no regions (`Tokenizer.innerNewlines_of_regions_eq_nil`).

The lines of a text are those of its records and of the rest (`Layout.lineCount_eq_sum`). A record
is one line more than it has newlines before its last character, whatever that character is, so it
makes no difference whether the last record ends with a newline. A rest is one line, and is counted
as a line that is dropped.
-/

namespace Lineation

/-- How many newlines of a record are not its last character. -/
def LineRecord.innerNewlines (record : LineRecord) : Nat :=
  record.source.toList.dropLast.count '\n'

namespace Layout

variable {t : Tokenizer} {text : List Char} {s : Scan} {lines : List (List Stretch)}
  {tail : List Char}

theorem lineCount_chars (h : Layout t text s lines tail) {line : List Stretch}
    (hLine : line ∈ lines) :
    Text.lineCount (String.ofList (line.flatMap Stretch.chars)) =
      (line.flatMap Stretch.chars).dropLast.count '\n' + 1 := by
  rw [Text.lineCount_eq_dropLast (by simpa using h.chars_ne_nil hLine), String.toList_ofList]

/-- A rest is one line, for it has no newline. -/
theorem lineCount_tail (h : Layout t text s lines tail) :
    Text.lineCount (String.ofList tail) = s.metrics.droppedLines := by
  rw [h.droppedLines_eq]
  split
  · rename_i hNil
    rw [hNil, Text.lineCount_eq]
    rfl
  · rename_i hTail
    have hNone : tail.dropLast.count '\n' = 0 := List.count_eq_zero.mpr fun hMem =>
      (h.tail_gaps _ ((List.dropLast_sublist tail).subset hMem)).ne_newline rfl
    rw [Text.lineCount_eq_dropLast (by simpa using hTail), String.toList_ofList, hNone]

theorem lineCount_eq_sum (h : Layout t text s lines tail) :
    Text.lineCount (String.ofList text) =
      (lines.map fun line => Text.lineCount (String.ofList (line.flatMap Stretch.chars))).sum +
        Text.lineCount (String.ofList tail) := by
  obtain ⟨front, last, rfl, hLast, hTail, hEnded⟩ := h.ended
  let row := fun line : List Stretch => String.ofList (line.flatMap Stretch.chars)
  have hRows : ∀ r ∈ front.map row, r.toList.getLast? = some '\n' :=
    List.forall_mem_map.mpr fun line hMem => by simpa [row] using hEnded line hMem
  have hFront : ∀ rest : List Char,
      Text.lineCount (String.ofList (front.flatten.flatMap Stretch.chars ++ rest)) =
        (front.map fun line => Text.lineCount (row line)).sum +
          Text.lineCount (String.ofList rest) := by
    intro rest
    have hJoin : String.join (front.map row) =
        String.ofList (front.flatten.flatMap Stretch.chars) := by
      rw [List.flatten_eq_flatMap, List.flatMap_assoc]
      simp [String.ext_iff, row, List.flatMap_def, Function.comp_def]
    rw [String.ofList_append, ← hJoin, Text.lineCount_join_append hRows, List.map_map]
    rfl
  rw [h.text_eq]
  -- either no line is left without a newline, or one is and there is no rest
  cases last with
  | nil => rw [List.append_nil, hFront]
  | cons line more =>
    have hMore : more = [] := List.eq_nil_of_length_eq_zero (by simpa using hLast)
    have hNil : tail = [] := by
      by_contra hTailNe
      cases hTail hTailNe
    have hChars : ((front ++ [line]).flatten.flatMap Stretch.chars ++ []) =
        front.flatten.flatMap Stretch.chars ++ line.flatMap Stretch.chars := by simp
    have hEmpty : Text.lineCount (String.ofList []) = 0 := by simp [Text.lineCount_eq]
    rw [hMore, hNil, hChars, hFront, List.map_append, List.sum_append, hEmpty]
    rfl

/-- The lines that are counted, with the newlines that end none of them, are the lines of the
text. -/
theorem totalLines_add_inner (h : Layout t text s lines tail) :
    s.metrics.totalLines +
        (lines.map fun line => (line.flatMap Stretch.chars).dropLast.count '\n').sum =
      Text.lineCount (String.ofList text) := by
  rw [h.lineCount_eq_sum, h.lineCount_tail, h.totalLines_eq,
    List.map_congr_left fun line hLine => h.lineCount_chars hLine, List.sum_map_add,
    List.map_const', List.sum_replicate_nat]
  omega

end Layout

namespace Tokenizer

theorem recordedLines_subset (t : Tokenizer) (lines : List (List Char)) :
    t.recordedLines lines ⊆ lines := by
  unfold recordedLines
  split
  · split
    · exact List.dropLast_subset _
    · exact List.Subset.refl _
  · exact List.nil_subset _

/-- Without regions a newline always ends a record. -/
theorem innerNewlines_of_regions_eq_nil {t : Tokenizer} (hRegions : t.regions = [])
    (text : String) : ∀ record ∈ (t.tokenize text).records, record.innerNewlines = 0 := by
  obtain ⟨lines, line, buffer, words, hReads, hLine, hText⟩ :=
    (ReadsLines.start t).foldl hRegions (by simp) text.toList
  have hRecords : (t.tokenize text).records = t.linewiseRecords (lines.flatten ++ line) :=
    hReads.finish hRegions hLine
  intro record hMem
  rw [hRecords, linewiseRecords, List.mem_mapIdx] at hMem
  obtain ⟨i, hi, rfl⟩ := hMem
  have hPhysical := t.recordedLines_subset _ (List.getElem_mem hi)
  simpa [LineRecord.innerNewlines, linewiseRecord, List.count_eq_zero] using
    newline_not_mem_dropLast_of_mem_physicalLines hPhysical

theorem totalLines_add_innerNewlines (t : Tokenizer) (text : String) :
    (t.tokenize text).metrics.totalLines +
        ((t.tokenize text).records.map LineRecord.innerNewlines).sum = Text.lineCount text := by
  obtain ⟨lines, tail, hLayout, hRecords, hMetrics⟩ := exists_layout_tokenize t text
  have hInner : ∀ number line, (t.record number line).innerNewlines =
      (line.flatMap Stretch.chars).dropLast.count '\n' := by
    intro number line
    rw [LineRecord.innerNewlines, source_record]
  rw [hRecords, hMetrics, map_records hInner, hLayout.totalLines_add_inner, String.ofList_toList]

/-- Records are numbered from one. -/
theorem number_le_length_records (t : Tokenizer) (text : String) :
    ∀ record ∈ (t.tokenize text).records, record.number ≤ (t.tokenize text).records.length := by
  obtain ⟨lines, tail, -, hRecords, -⟩ := exists_layout_tokenize t text
  rw [hRecords]
  intro record hMem
  obtain ⟨i, hRecord, rfl⟩ := List.mem_iff_getElem.mp hMem
  have hLine : i < lines.length := t.length_records lines ▸ hRecord
  rw [t.getElem_records lines hRecord hLine, length_records]
  exact hLine

theorem length_records_le_totalLines (t : Tokenizer) (text : String) :
    (t.tokenize text).records.length ≤ (t.tokenize text).metrics.totalLines := by
  obtain ⟨lines, tail, hLayout, hRecords, hMetrics⟩ := exists_layout_tokenize t text
  rw [hRecords, hMetrics, length_records, hLayout.totalLines_eq]
  exact Nat.le_add_right _ _

/-- The lines that a run counts, with the newlines inside records, are the lines of the text: never
more lines are counted than the text has, and all of them if there are no regions. As a file is read
only if it has few lines, it has few records, and their numbers are small. -/
theorem tokenize_counts_lines (t : Tokenizer) :
    (∀ text : String,
      let run := t.tokenize text
      Text.lineCount text = (physicalLines text.toList).length ∧
      run.metrics.totalLines + (run.records.map LineRecord.innerNewlines).sum =
        Text.lineCount text ∧
      run.metrics.totalLines ≤ Text.lineCount text ∧
      (t.regions = [] → run.metrics.totalLines = Text.lineCount text)) ∧
    ∀ files limits preferences logging path elapsed source,
      (Source.read files limits preferences logging path elapsed).value = .ok source →
      let run := t.tokenize source.text
      source.lineCount = Text.lineCount source.text ∧
      run.records.length ≤ limits.maxLineCount ∧
      ∀ record ∈ run.records, record.number ≤ limits.maxLineCount := by
  refine ⟨fun text => ?_, fun files limits preferences logging path elapsed source hRead => ?_⟩
  · have hTotal := t.totalLines_add_innerNewlines text
    refine ⟨(length_physicalLines text).symm, hTotal, by omega, fun hRegions => ?_⟩
    have hNone : ((t.tokenize text).records.map LineRecord.innerNewlines).sum = 0 :=
      List.sum_eq_zero (List.forall_mem_map.mpr (innerNewlines_of_regions_eq_nil hRegions text))
    rwa [hNone, Nat.add_zero] at hTotal
  · obtain ⟨hAccepted, hLines⟩ := Source.accepted_of_read hRead
    have hFew := hAccepted.lines_le
    rw [length_physicalLines] at hLines hFew
    have hTotal := t.totalLines_add_innerNewlines source.text
    have hRecords := t.length_records_le_totalLines source.text
    have hAtMost : (t.tokenize source.text).records.length ≤ limits.maxLineCount := by omega
    exact ⟨hLines, hAtMost, fun record hMem =>
      (t.number_le_length_records source.text record hMem).trans hAtMost⟩

example :
    let text := "a /*\n*/ b"
    ((ofRuleSet .cLike {}).tokenize text).metrics.totalLines = 1 ∧ Text.lineCount text = 2 := by
  cbv

end Tokenizer

end Lineation
