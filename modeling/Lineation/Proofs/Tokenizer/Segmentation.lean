import Lineation.Proofs.Tokenizer.Layout

/-!
# The tokens of a text

The tokens of a text are those of segments, which do not go over the end of a record. Every region
is that of the first rule with its opening text, whatever the token that opened it was: a closing
token opens nothing, even if it is an opening text. Only the last segment can be a region that was
not closed.
-/

namespace Lineation.Tokenizer

/-- The tokens of the records are those of segments, record by record. The metrics count the regions
that were closed and the one that was not. -/
theorem tokenize_exists_segments (t : Tokenizer) (text : String) :
    ∃ lines : List (List Segment),
      (t.tokenize text).records.map LineRecord.texts =
        lines.map (fun line => line.flatMap Segment.texts) ∧
      (∀ line ∈ lines, line ≠ []) ∧
      (∀ segment ∈ lines.flatten, segment.Valid t) ∧
      (∀ segment ∈ lines.flatten.dropLast, segment.isUnclosed = false) ∧
      (t.tokenize text).metrics.capturedRegions = lines.flatten.countP Segment.isClosed ∧
      (t.tokenize text).metrics.unterminatedRegions = lines.flatten.countP Segment.isUnclosed := by
  obtain ⟨lines, tail, hLayout, hRecords, hMetrics⟩ := exists_layout_tokenize t text
  refine ⟨lines.map Stretch.segments, ?_, ?_, ?_, ?_, ?_, ?_⟩
  · rw [hRecords, map_records t.texts_record, List.map_map]
    rfl
  · intro segments hMem hNil
    obtain ⟨line, hLine, rfl⟩ := List.mem_map.mp hMem
    apply hLayout.texts_ne_nil line hLine
    rw [Stretch.texts, hNil, List.flatMap_nil]
  · intro segment hMem
    rw [← Stretch.segments_flatten] at hMem
    exact hLayout.valid _ (Stretch.mem_segments.mp hMem)
  · intro segment hMem
    rw [← Stretch.segments_flatten] at hMem
    exact hLayout.unclosed _ (Stretch.mem_dropLast_of_mem_segments hMem)
  · rw [hMetrics, hLayout.capturedRegions_eq]
  · rw [hMetrics, hLayout.unterminatedRegions_eq]

end Lineation.Tokenizer
