import Mathlib.Data.List.Basic
import Mathlib.Data.List.Induction
import Lineation.Proofs.Diagnostics.Session
import Lineation.Proofs.Tokenizer.Layout

/-!
# What a run of a tokenizer reports

The warnings of a run are those of its segments, each about the line of the record that holds the
segment. A warning is given before that record exists. That it names the right line was carried
through the scan with the layout (`Layout.warnings_eq`), and a line that is warned about has a
token, so it is not dropped.

A text ends in one region at most, which is the last segment. All long regions are therefore warned
about before it.

* `Tokenizer.started_eq`, `Tokenizer.tokenWarning_eq`, `Tokenizer.completed_eq`: what the events that
  are not about regions say.
* `Tokenizer.warnings_eq_flatMap`: the warnings, from the records and their segments.
* `Tokenizer.flatMap_segmentWarnings`: long regions first.
* `Tokenizer.tokenize_reports`: all events of a run.
-/

namespace Lineation

open Diagnostics

/-- The segments of some lines, each with the record of its line. -/
def placed (records : List LineRecord) (lines : List (List Stretch)) :
    List (LineRecord × Segment) :=
  (records.zip lines).flatMap fun (record, line) =>
    (Stretch.segments line).map fun segment => (record, segment)

namespace Tokenizer

/-- The warnings about regions that were closed. -/
def longRegions (t : Tokenizer) (regions : List (LineRecord × Segment)) : List Event :=
  regions.flatMap fun (record, segment) =>
    match segment with
    | .closed rule body => t.longRegion record.number (body.length - rule.closing.length)
    | _ => []

/-- The warnings about regions in which the text ended. -/
def openRegions (t : Tokenizer) (regions : List (LineRecord × Segment)) : List Event :=
  regions.flatMap fun (record, segment) =>
    match segment with
    | .unclosed rule _ => t.openAtEnd record.number rule
    | _ => []

/-! ## Records and their segments -/

theorem placed_concat (t : Tokenizer) (lines : List (List Stretch)) (line : List Stretch) :
    placed (t.records (lines ++ [line])) (lines ++ [line]) =
      placed (t.records lines) lines ++
        (Stretch.segments line).map fun segment => (t.record (lines.length + 1) line, segment) := by
  rw [records_concat, placed, placed, List.zip_append (t.length_records lines), List.flatMap_append]
  simp

theorem map_snd_placed (t : Tokenizer) (lines : List (List Stretch)) :
    (placed (t.records lines) lines).map Prod.snd = Stretch.segments lines.flatten := by
  induction lines using List.reverseRecOn with
  | nil => rfl
  | append_singleton lines line ih =>
    rw [placed_concat, List.map_append, ih, List.flatten_concat, Stretch.segments_append]
    simp [Function.comp_def]

/-- The record of a segment is one of the records, and has the tokens of the segment. -/
theorem mem_placed {t : Tokenizer} {lines : List (List Stretch)} {region : LineRecord × Segment}
    (h : region ∈ placed (t.records lines) lines) :
    region.1 ∈ t.records lines ∧ region.2.texts <:+: region.1.texts := by
  induction lines using List.reverseRecOn with
  | nil => cases h
  | append_singleton lines line ih =>
    rw [placed_concat] at h
    rw [records_concat]
    rcases List.mem_append.mp h with hBefore | hLast
    · obtain ⟨hRecord, hTexts⟩ := ih hBefore
      exact ⟨List.mem_append_left _ hRecord, hTexts⟩
    · obtain ⟨segment, hSegment, rfl⟩ := List.mem_map.mp hLast
      refine ⟨by simp, ?_⟩
      obtain ⟨before, after, hSegments⟩ := List.append_of_mem hSegment
      refine ⟨before.flatMap Segment.texts, after.flatMap Segment.texts, ?_⟩
      rw [texts_record, Stretch.texts, hSegments]
      simp

theorem warnings_eq_flatMap (t : Tokenizer) (lines : List (List Stretch)) :
    t.warnings lines = (placed (t.records lines) lines).flatMap fun (record, segment) =>
      t.segmentWarnings record.number segment := by
  induction lines using List.reverseRecOn with
  | nil => rfl
  | append_singleton lines line ih =>
    rw [warnings_concat, placed_concat, List.flatMap_append, ← ih, lineWarnings, List.flatMap_map]
    rfl

/-- Every region in which the text ended is warned about once, if that is wanted. -/
theorem length_openRegions (t : Tokenizer) (regions : List (LineRecord × Segment)) :
    (t.openRegions regions).length =
      (regions.countP fun region => region.2.isUnclosed) * t.preferences.warnUnterminated.toNat := by
  induction regions with
  | nil => simp [openRegions]
  | cons region regions ih =>
    obtain ⟨record, segment⟩ := region
    have hCons : t.openRegions ((record, segment) :: regions) =
        t.openRegions [(record, segment)] ++ t.openRegions regions := by
      simp [openRegions]
    have hOne : (t.openRegions [(record, segment)]).length =
        segment.isUnclosed.toNat * t.preferences.warnUnterminated.toNat := by
      cases segment with
      | plain text => simp [openRegions, Segment.isUnclosed]
      | closed rule body => simp [openRegions, Segment.isUnclosed]
      | unclosed rule body =>
        cases hWanted : t.preferences.warnUnterminated <;>
          simp [openRegions, openAtEnd, Segment.isUnclosed, hWanted]
    rw [hCons, List.length_append, hOne, ih, List.countP_cons, Nat.add_mul, Nat.add_comm]
    cases segment.isUnclosed <;> rfl

theorem countP_isUnclosed_eq_zero {regions : List (LineRecord × Segment)}
    (h : ∀ region ∈ regions, region.2.isUnclosed = false) :
    (regions.countP fun region => region.2.isUnclosed) = 0 := by
  apply List.countP_eq_zero.mpr
  intro region hMem
  rw [h region hMem]
  exact Bool.false_ne_true

/-- A region that was not closed is the last segment, so its warning comes last. -/
theorem flatMap_segmentWarnings (t : Tokenizer) {regions : List (LineRecord × Segment)}
    (hUnclosed : ∀ region ∈ regions.dropLast, region.2.isUnclosed = false) :
    (regions.flatMap fun (record, segment) => t.segmentWarnings record.number segment) =
      t.longRegions regions ++ t.openRegions regions := by
  rcases List.eq_nil_or_concat regions with rfl | ⟨front, ⟨record, segment⟩, rfl⟩
  · rfl
  · rw [List.concat_eq_append, List.dropLast_concat] at hUnclosed
    rw [List.concat_eq_append]
    have hNone : t.openRegions front = [] := by
      apply List.eq_nil_of_length_eq_zero
      rw [length_openRegions, countP_isUnclosed_eq_zero hUnclosed, Nat.zero_mul]
    have hFront : (front.flatMap fun (record, segment) =>
        t.segmentWarnings record.number segment) = t.longRegions front := by
      apply List.flatMap_congr
      intro region hMem
      have hRegion := hUnclosed region hMem
      cases hSegment : region.2 with
      | unclosed rule body => simp [hSegment, Segment.isUnclosed] at hRegion
      | plain text => simp [hSegment, segmentWarnings]
      | closed rule body => simp [hSegment, segmentWarnings]
    have hLast : t.segmentWarnings record.number segment =
        t.longRegions [(record, segment)] ++ t.openRegions [(record, segment)] := by
      cases segment <;> simp [segmentWarnings, longRegions, openRegions]
    calc (front ++ [(record, segment)]).flatMap
          (fun (record, segment) => t.segmentWarnings record.number segment)
        = t.longRegions front ++ t.segmentWarnings record.number segment := by
          rw [List.flatMap_append, hFront, List.flatMap_singleton]
      _ = t.longRegions front ++ t.longRegions [(record, segment)] ++
            (t.openRegions front ++ t.openRegions [(record, segment)]) := by
          rw [hLast, hNone, List.nil_append, List.append_assoc]
      _ = t.longRegions (front ++ [(record, segment)]) ++
            t.openRegions (front ++ [(record, segment)]) := by
          simp only [longRegions, openRegions, List.flatMap_append]

/-- The text ended in at most one region. -/
theorem countP_isUnclosed_le_one {regions : List (LineRecord × Segment)}
    (hUnclosed : ∀ region ∈ regions.dropLast, region.2.isUnclosed = false) :
    (regions.countP fun region => region.2.isUnclosed) ≤ 1 := by
  rcases List.eq_nil_or_concat regions with rfl | ⟨front, last, rfl⟩
  · exact Nat.zero_le 1
  · rw [List.concat_eq_append, List.dropLast_concat] at hUnclosed
    rw [List.concat_eq_append, List.countP_append, countP_isUnclosed_eq_zero hUnclosed,
      Nat.zero_add]
    exact List.countP_le_length

/-! ## Levels -/

/-- A warning about a segment is about a region, and has the number it was given. -/
theorem exists_of_mem_segmentWarnings {t : Tokenizer} {number : Nat} {segment : Segment}
    {event : Event} (h : event ∈ t.segmentWarnings number segment) :
    event.level = .warning ∧ event.line = some number ∧
      (event.code = .regionUnterminated ∨ event.code = .longRegion) ∧
      ∃ rule body, segment = .closed rule body ∨ segment = .unclosed rule body := by
  cases segment with
  | plain text => cases h
  | closed rule body =>
    rw [segmentWarnings, longRegion, List.mem_ite_nil_right, List.mem_singleton] at h
    rw [h.2]
    exact ⟨rfl, rfl, Or.inr rfl, rule, body, Or.inl rfl⟩
  | unclosed rule body =>
    rw [segmentWarnings, openAtEnd, List.mem_ite_nil_right, List.mem_singleton] at h
    rw [h.2]
    exact ⟨rfl, rfl, Or.inl rfl, rule, body, Or.inr rfl⟩

theorem isError_of_mem_segmentWarnings {t : Tokenizer} {number : Nat} {segment : Segment}
    {event : Event} (h : event ∈ t.segmentWarnings number segment) : event.isError = false := by
  obtain ⟨hLevel, -, -⟩ := exists_of_mem_segmentWarnings h
  simp [Event.isError, hLevel]

theorem isError_of_mem_tokenWarning {t : Tokenizer} {metrics : Metrics} {event : Event}
    (h : event ∈ t.tokenWarning metrics) : event.isError = false := by
  rw [tokenWarning, List.mem_ite_nil_right, List.mem_singleton] at h
  rw [h.2]
  simp [Event.isError, Event.warning]

/-! ## Runs -/

theorem started_eq (t : Tokenizer) (text : String) :
    t.started text =
      { level := .debug
        code := ⟨"D000"⟩
        message := "Starting tokenization"
        context := [("chars", toString text.length), ("rules", toString t.regions.length)] } := rfl

theorem tokenWarning_eq (t : Tokenizer) (metrics : Metrics) :
    t.tokenWarning metrics =
      if t.preferences.warnThresholds ∧ t.limits.tokenCountWarning < metrics.totalTokens then
        [{ level := .warning
           code := ⟨"W022"⟩
           message := "Token count above warning threshold"
           context := [
            ("threshold", toString t.limits.tokenCountWarning),
            ("tokens", toString metrics.totalTokens)] }]
      else [] := by
  simp only [tokenWarning, Bool.and_eq_true, decide_eq_true_eq, gt_iff_lt]
  rfl

theorem completed_eq (metrics : Metrics) (records : Nat) :
    completed metrics records =
      { level := .info
        code := ⟨"I020"⟩
        message := "Tokenization completed"
        context := [
          ("dropped_lines", toString metrics.droppedLines),
          ("records", toString records),
          ("regions", toString metrics.capturedRegions),
          ("tokens", toString metrics.totalTokens)] } := rfl

theorem events_eq (t : Tokenizer) (text : String) {lines : List (List Stretch)} {tail : List Char}
    (hLayout : Layout t text.toList (t.scan text.toList) lines tail) :
    (t.tokenize text).events =
      t.started text :: t.warnings lines ++ t.tokenWarning (t.tokenize text).metrics ++
        [completed (t.tokenize text).metrics (t.tokenize text).records.length] := by
  rw [← hLayout.warnings_eq]
  rfl

/-- A run reports no error. -/
theorem isError_of_mem_events (t : Tokenizer) (text : String) :
    ∀ event ∈ (t.tokenize text).events, event.isError = false := by
  obtain ⟨lines, tail, hLayout⟩ := exists_layout t text.toList
  intro event hMem
  rw [t.events_eq text hLayout] at hMem
  simp only [List.cons_append, List.mem_cons, List.mem_append, List.not_mem_nil, or_false] at hMem
  rcases hMem with rfl | (hMem | hMem) | rfl
  · simp [started, Event.isError, Event.debug]
  · rw [warnings_eq_flatMap] at hMem
    obtain ⟨region, -, hEvent⟩ := List.mem_flatMap.mp hMem
    exact isError_of_mem_segmentWarnings hEvent
  · exact isError_of_mem_tokenWarning hMem
  · simp [completed, Event.isError, Event.success]

theorem countP_placed (t : Tokenizer) (lines : List (List Stretch)) (p : Segment → Bool) :
    (placed (t.records lines) lines).countP (fun region => p region.2) =
      (lines.map Stretch.segments).flatten.countP p := by
  rw [← Stretch.segments_flatten, ← map_snd_placed t, List.countP_map]
  rfl

/-- The text ended in no region but that of the last segment. -/
theorem isUnclosed_of_mem_dropLast_placed (t : Tokenizer) {lines : List (List Stretch)}
    (hUnclosed : ∀ stretch ∈ lines.flatten.dropLast, stretch.isUnclosed = false) :
    ∀ region ∈ (placed (t.records lines) lines).dropLast, region.2.isUnclosed = false := by
  intro region hMem
  have hSegment : region.2 ∈ (Stretch.segments lines.flatten).dropLast := by
    rw [← map_snd_placed t, ← List.map_dropLast]
    exact List.mem_map_of_mem hMem
  exact hUnclosed _ (Stretch.mem_dropLast_of_mem_segments hSegment)

/-- All that a run reports follows from its records and counts: its start; one warning for each
closed region that is too long, in order; at most one warning, about a region in which the text
ended; a warning if there are too many tokens; and its end, with the counts. A warning about a region
names the line of the record that has the opening text of the region. A sink that takes all levels
gets all of them. -/
theorem tokenize_reports (t : Tokenizer) (text : String) :
    let run := t.tokenize text
    let session : Session := { service := some ⟨.debug, .structured .debug⟩ }
    (session.logAll run.events).outlets.emissions = run.events.map .record ∧
      ∃ lines : List (List Stretch),
        run.records = t.records lines ∧
        (∀ stretch ∈ lines.flatten, stretch.Valid t) ∧
        let regions := placed run.records lines
        (∀ region ∈ regions, region.1 ∈ run.records ∧ region.2.texts <:+: region.1.texts) ∧
        run.metrics.capturedRegions = (regions.countP fun region => region.2.isClosed) ∧
        run.metrics.unterminatedRegions = (regions.countP fun region => region.2.isUnclosed) ∧
        run.events =
          [{ level := .debug
             code := ⟨"D000"⟩
             message := "Starting tokenization"
             context := [
              ("chars", toString text.length),
              ("rules", toString t.regions.length)] }] ++
            t.longRegions regions ++ t.openRegions regions ++
            (if t.preferences.warnThresholds ∧
                t.limits.tokenCountWarning < run.metrics.totalTokens then
              [{ level := .warning
                 code := ⟨"W022"⟩
                 message := "Token count above warning threshold"
                 context := [
                  ("threshold", toString t.limits.tokenCountWarning),
                  ("tokens", toString run.metrics.totalTokens)] }]
            else []) ++
            [{ level := .info
               code := ⟨"I020"⟩
               message := "Tokenization completed"
               context := [
                ("dropped_lines", toString run.metrics.droppedLines),
                ("records", toString run.records.length),
                ("regions", toString run.metrics.capturedRegions),
                ("tokens", toString run.metrics.totalTokens)] }] ∧
        (t.openRegions regions).length =
          if run.metrics.unterminatedRegions = 1 ∧ t.preferences.warnUnterminated then 1 else 0 := by
  intro run session
  obtain ⟨lines, tail, hLayout, hRecords, hMetrics⟩ := exists_layout_tokenize t text
  have hUnclosed := t.isUnclosed_of_mem_dropLast_placed hLayout.unclosed
  have hOpen : run.metrics.unterminatedRegions =
      (placed (t.records lines) lines).countP fun region => region.2.isUnclosed := by
    rw [countP_placed t lines Segment.isUnclosed, ← hLayout.unterminatedRegions_eq, ← hMetrics]
  refine ⟨Session.emissions_logAll rfl rfl run.events, lines, hRecords, hLayout.valid, ?_⟩
  rw [show run.records = t.records lines from hRecords]
  refine ⟨fun region => mem_placed, ?_, hOpen, ?_, ?_⟩
  · rw [countP_placed t lines Segment.isClosed, ← hLayout.capturedRegions_eq, ← hMetrics]
  · rw [t.events_eq text hLayout, hRecords, warnings_eq_flatMap,
      flatMap_segmentWarnings t hUnclosed, started_eq, tokenWarning_eq, completed_eq]
    simp [run]
  · have hOne := countP_isUnclosed_le_one hUnclosed
    rw [length_openRegions, ← hOpen]
    rw [← hOpen] at hOne
    rcases Nat.le_one_iff_eq_zero_or_eq_one.mp hOne with hNone | hSome
    · simp [hNone]
    · cases hWanted : t.preferences.warnUnterminated <;> simp [hSome]

/-- Three characters between the marks of a comment are too many here, and so are six tokens. -/
theorem reports_of_long_comment_and_open_quote :
    let t := ofRuleSet .cLike {}
      { Limits.current with regionLengthWarning := 2, tokenCountWarning := 5 }
    let run := t.tokenize "/* ab*/\n\"x"
    let session : Session := { service := some ⟨.debug, .structured .debug⟩ }
    (session.logAll run.events).outlets.emissions =
      [ .record {
          level := .debug
          code := ⟨"D000"⟩
          message := "Starting tokenization"
          context := [("chars", "10"), ("rules", "3")] },
        .record {
          level := .warning
          code := ⟨"W023"⟩
          message := "Delimited region above length threshold"
          line := some 1
          context := [("length", "3"), ("threshold", "2")] },
        .record {
          level := .warning
          code := ⟨"W021"⟩
          message := "Input ended inside a delimited region"
          line := some 2
          context := [("end", "\\\""), ("start", "\\\"")] },
        .record {
          level := .warning
          code := ⟨"W022"⟩
          message := "Token count above warning threshold"
          context := [("threshold", "5"), ("tokens", "6")] },
        .record {
          level := .info
          code := ⟨"I020"⟩
          message := "Tokenization completed"
          context := [
            ("dropped_lines", "0"), ("records", "2"), ("regions", "1"), ("tokens", "6")] }] :=
  -- The run is evaluated as a closed term, without names for its parts.
  (tokenize_reports (ofRuleSet .cLike {}
    { Limits.current with regionLengthWarning := 2, tokenCountWarning := 5 })
    "/* ab*/\n\"x").1.trans rfl

end Tokenizer

end Lineation
