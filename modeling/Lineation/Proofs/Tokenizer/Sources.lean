import Lineation.Proofs.Tokenizer.Layout

/-!
# The characters of records

Tokenizing loses no character and makes none up.

* The records keep the text as it stood, but for a rest of separators at its end.
* The characters of a record are those of its tokens with gaps between them (`Spelling`). The
  closing token of a region that was closed by a part of the closing text stands for that part
  only.
-/

namespace Lineation.Tokenizer

/-- The records of a text are numbered from one without a break and keep its characters. What is
left at the end is a line of separators only, which is counted as dropped and gives no record. -/
theorem tokenize_sources_append_tail (t : Tokenizer) (text : String) :
    ∃ tail : String,
      text = String.join ((t.tokenize text).records.map LineRecord.source) ++ tail ∧
      '\n' ∉ tail.toList ∧ (∀ c ∈ tail.toList, t.IsGap c) ∧
      (t.tokenize text).metrics.droppedLines = (if tail = "" then 0 else 1) ∧
      (∀ record ∈ (t.tokenize text).records, 0 < record.size ∧ record.source ≠ "") ∧
      (∀ (i : Nat) (h : i < (t.tokenize text).records.length),
        ((t.tokenize text).records[i].source.toList.getLast? = some '\n' ∨
          i + 1 = (t.tokenize text).records.length ∧ tail = "") ∧
        (t.tokenize text).records[i].number = i + 1) ∧
      (t.tokenize text).metrics.totalLines =
        (t.tokenize text).records.length + (t.tokenize text).metrics.droppedLines := by
  obtain ⟨lines, tail, hLayout, hRecords, hMetrics⟩ := exists_layout_tokenize t text
  have hEmpty : String.ofList tail = "" ↔ tail = [] := by simp
  refine ⟨String.ofList tail, ?_, ?_, ?_, ?_, ?_, ?_, ?_⟩
  · apply String.toList_injective
    rw [String.toList_append, String.toList_join, String.toList_ofList, hLayout.text_eq, hRecords,
      List.flatMap_map, flatMap_source_records]
  · rw [String.toList_ofList]
    exact fun hMem => (hLayout.tail_gaps _ hMem).ne_newline rfl
  · rw [String.toList_ofList]
    exact hLayout.tail_gaps
  · simp only [hMetrics, hLayout.droppedLines_eq, hEmpty]
  · intro record hMem
    rw [hRecords] at hMem
    obtain ⟨number, line, hLine, rfl⟩ := mem_records hMem
    refine ⟨?_, ?_⟩
    · have hTexts := List.length_pos_iff.mpr (hLayout.texts_ne_nil line hLine)
      simpa [record, LineRecord.size] using hTexts
    · intro hSource
      have hNil := congrArg String.toList hSource
      rw [source_record] at hNil
      exact hLayout.chars_ne_nil hLine hNil
  · rw [hRecords]
    intro i hi
    have hLength := t.length_records lines
    have hLine : i < lines.length := hLength ▸ hi
    rw [t.getElem_records lines hi hLine, source_record, hEmpty]
    refine ⟨?_, rfl⟩
    rcases hLayout.getLast?_chars hLine with hEnd | ⟨hLast, hTail⟩
    · exact Or.inl hEnd
    · exact Or.inr ⟨hLast.trans hLength.symm, hTail⟩
  · rw [hRecords, hMetrics, length_records]
    exact hLayout.totalLines_eq

/-- How the characters of a record are those of its tokens, with gaps around them. -/
structure Spelling (t : Tokenizer) (record : LineRecord) (gaps pieces : List (List Char))
    (segments : List Segment) : Prop where
  source_eq : record.source.toList = weave gaps pieces
  length_gaps : gaps.length = pieces.length + 1
  length_pieces : pieces.length = record.texts.length
  gaps_separate : ∀ gap ∈ gaps, ∀ c ∈ gap, t.IsGap c
  /-- The tokens are those of segments, in order, and so are the pieces. -/
  texts_eq : record.texts = segments.flatMap Segment.texts
  pieces_eq : pieces = segments.flatMap Segment.pieces
  valid : ∀ segment ∈ segments, segment.Valid t
  /-- A piece is the text of its token, but for the closing token of a region that was closed by
  less than the closing text. -/
  exact_or_short : ∀ segment ∈ segments,
    segment.pieces = segment.texts.map String.toList ∨
      ∃ rule body, segment = .closed rule body ∧
        segment.texts = [rule.opening, rule.closing] ∧
        segment.pieces = [rule.opening.toList, body] ∧
        body ≠ [] ∧ body ≠ rule.closing.toList ∧ body <:+ rule.closing.toList
  exact_of_closing : (∀ rule ∈ t.regions, rule.closing.length ≤ 1) →
    pieces = record.texts.map String.toList

/-- The characters of every record are the pieces of its tokens in order, with gaps before, between
and after them that hold only separators. -/
theorem tokenize_exists_spelling (t : Tokenizer) (text : String) :
    ∀ record ∈ (t.tokenize text).records,
      ∃ gaps pieces segments, Spelling t record gaps pieces segments := by
  intro record hMem
  obtain ⟨lines, tail, hLayout, hRecords, _⟩ := exists_layout_tokenize t text
  rw [hRecords] at hMem
  obtain ⟨number, line, hLine, rfl⟩ := mem_records hMem
  have hStretches : ∀ stretch ∈ line, stretch.Valid t := fun stretch hStretch =>
    hLayout.valid stretch (List.mem_flatten.mpr ⟨line, hLine, hStretch⟩)
  have hSegments : ∀ segment ∈ Stretch.segments line, segment.Valid t := fun segment hSegment =>
    hStretches _ (Stretch.mem_segments.mp hSegment)
  obtain ⟨gaps, hLength, hChars, hGaps⟩ := Stretch.exists_weave line
  refine ⟨gaps, _, Stretch.segments line, ?_, hLength, ?_, ?_, t.texts_record number line, rfl,
    hSegments, ?_, ?_⟩
  · rw [source_record, hChars]
  · rw [texts_record, Stretch.texts, List.length_flatMap, List.length_flatMap]
    simp only [Segment.length_pieces]
  · exact fun gap hGap c hc => hStretches _ (hGaps gap hGap c hc)
  · exact fun segment hSegment => (hSegments segment hSegment).pieces_eq_or_short
  · intro hClosing
    rw [texts_record, Stretch.texts, List.map_flatMap, List.flatMap_def, List.flatMap_def]
    refine congrArg List.flatten (List.map_congr_left fun segment hSegment => ?_)
    exact (hSegments segment hSegment).pieces_eq hClosing

/-- A region that is closed by the last character of its closing text, right after it opened: the
closing token has a character that the text does not have. -/
theorem spelling_of_short_closing :
    let t : Tokenizer :=
      { individual := ['"'], separators := [' '], regions := [⟨"\"", "ab"⟩] }
    let record : LineRecord :=
      ⟨1, " x \"by", #[t.token "x", t.token "\"", t.token "ab", t.token "y"]⟩
    record ∈ (t.tokenize " x \"by").records ∧
      ∃ gaps pieces segments, Spelling t record gaps pieces segments := by
  intro t record
  have hRecords : (t.tokenize " x \"by").records = [record] := by rfl
  have hMem : record ∈ (t.tokenize " x \"by").records := by
    rw [hRecords]
    exact List.mem_cons_self
  exact ⟨hMem, tokenize_exists_spelling t " x \"by" record hMem⟩

end Lineation.Tokenizer
