import Lineation.Proofs.Tokenizer.Reading
import Lineation.Tokenizer.Run

/-!
# The layout of a text

A text is laid out in lines, each a row of stretches, and a rest of separators that belongs to no
record. `Layout` says how the result of a scan follows from it, and `exists_layout` that every text
has one.

The line that is being read ends with a newline exactly when a newline was read outside a region
(`Reads.newline`), so ending the line then leaves nothing behind. Only the end of the text can leave
a line that does not end with a newline, a region that was not closed, or a line without tokens. It
ends no word that opens a region too early: there is no character that could go on with it.
-/

namespace Lineation

/-! ## What reading a character leaves alone -/

namespace Tokenizer

theorem collect_source (t : Tokenizer) (rule : RegionRule) (content : List Char) (s : Scan) :
    (t.collect rule content s).source = s.source := by
  unfold collect
  split
  · exact (t.closeRegion_frame rule content s).2.1
  · rfl

theorem openRegion_source (t : Tokenizer) (rule : RegionRule) (seed : List Char) (s : Scan) :
    (t.openRegion rule seed s).source = s.source :=
  t.collect_source rule seed _

theorem single_source (t : Tokenizer) (c : Char) (s : Scan) :
    (t.single c s).source = s.source := by
  unfold single
  dsimp only
  split
  · rw [openRegion_source]
    rfl
  · rfl

theorem breakWord_source (t : Tokenizer) (buffer : List Char) (c : Char) (next : Scan → Scan)
    (hNext : ∀ s, (next s).source = s.source) (s : Scan) :
    (t.breakWord buffer c next s).source = s.source := by
  unfold breakWord
  split
  · exact hNext s
  · dsimp only
    split
    · rw [openRegion_source]
      rfl
    · rw [hNext]
      rfl

theorem read_source (t : Tokenizer) (s : Scan) (c : Char) :
    (t.read s c).source = c :: s.source := by
  unfold read
  split
  · unfold readOutside
    split
    · exact t.breakWord_source _ c _ (t.single_source c) _
    · split
      · exact t.breakWord_source _ c (·.building [c]) (fun _ => rfl) _
      · rfl
    · exact t.breakWord_source _ c id (fun _ => rfl) _
    · rfl
  · exact t.collect_source _ _ _

end Tokenizer

/-! ## The end of a line -/

namespace Scan

theorem closeLine_of_tokens_eq_nil {s : Scan} (h : s.tokens = []) :
    s.closeLine = { s with
      source := []
      tokens := []
      line := s.line + 1
      metrics := s.metrics.addDropped } := by
  simp [closeLine, h, Metrics.addDropped]

theorem closeLine_of_tokens_ne_nil {s : Scan} (h : s.tokens ≠ []) :
    s.closeLine = { s with
      source := []
      tokens := []
      line := s.line + 1
      metrics := s.metrics.addLine
      records := ⟨s.line, String.ofList s.source.reverse, s.tokens.reverse.toArray⟩ ::
        s.records } := by
  have hIsEmpty : s.tokens.isEmpty = false := by simpa using h
  simp [closeLine, hIsEmpty, Metrics.addLine]

end Scan

namespace Reads

variable {t : Tokenizer} {text : List Char} {s : Scan} {lines : List (List Stretch)}
  {current : List Stretch} {buffer : List Char}

theorem totalLines_eq (h : Reads t text s lines current) : s.metrics.totalLines = lines.length := by
  have hSegments : ∀ m : Metrics,
      (m.addSegments t.preferences t.limits (Stretch.segments current)).totalLines = m.totalLines :=
    Metrics.addSegments_totalLines _
  rw [h.metrics_eq]
  cases s.mode with
  | word buffer =>
    rw [Scan.Mode.count, hSegments, Metrics.ofLines_totalLines, List.length_map]
  | region rule content =>
    rw [Scan.Mode.count, Metrics.steady_totalLines.head, hSegments, Metrics.ofLines_totalLines,
      List.length_map]

theorem tokens_eq_nil_iff (h : Reads t text s lines current) (hMode : s.mode = .word []) :
    s.tokens = [] ↔ Stretch.texts current = [] := by
  rw [← List.reverse_eq_nil_iff, h.tokens_eq, hMode, Scan.Mode.opened, List.append_nil,
    List.map_eq_nil_iff]

/-- A line without tokens is one of separators only. -/
theorem isGap_of_texts_eq_nil (h : Reads t text s lines current)
    (hTexts : Stretch.texts current = []) : ∀ c ∈ current.flatMap Stretch.chars, t.IsGap c := by
  intro c hMem
  obtain ⟨stretch, hStretch, hc⟩ := List.mem_flatMap.mp hMem
  have hValid := h.valid stretch (List.mem_append_right _ hStretch)
  obtain ⟨d, rfl⟩ := Stretch.eq_gap_of_texts_eq_nil hTexts stretch hStretch
  rw [List.mem_singleton.mp hc]
  exact hValid

/-- A newline that was not taken into a region is a token of its own or ends a region. -/
theorem newline (h : Reads t text s lines current) (hMode : s.mode = .word buffer)
    (hSource : s.source.head? = some '\n') :
    buffer = [] ∧ s.tokens ≠ [] ∧ (current.flatMap Stretch.chars).getLast? = some '\n' := by
  have hLast : (current.flatMap Stretch.chars ++ buffer.reverse).getLast? = some '\n' := by
    have hEq := h.source_eq
    rw [hMode] at hEq
    rw [← hSource, ← List.getLast?_reverse, hEq]
    rfl
  have hBuffer : buffer = [] := by
    cases buffer with
    | nil => rfl
    | cons last buffer =>
      have hWord := h.isWord hMode (by simp)
      rw [List.reverse_cons, ← List.append_assoc, List.getLast?_concat, Option.some.injEq] at hLast
      exact absurd (Or.inl hLast) (hWord.not_isAlone last (by simp))
  subst hBuffer
  rw [List.reverse_nil, List.append_nil] at hLast
  refine ⟨rfl, ?_, hLast⟩
  intro hTokens
  have hGap := h.isGap_of_texts_eq_nil ((h.tokens_eq_nil_iff hMode).mp hTokens) '\n'
    (List.mem_of_getLast? hLast)
  exact hGap.ne_newline rfl

theorem closeLine (h : Reads t text s lines current) (hMode : s.mode = .word [])
    (hTokens : s.tokens ≠ []) : Reads t text s.closeLine (lines ++ [current]) [] := by
  have hTexts : Stretch.texts current ≠ [] := fun hNil =>
    hTokens ((h.tokens_eq_nil_iff hMode).mpr hNil)
  obtain ⟨hText, hSource, hTokensEq, hLine, hRecords, hWarnings, hMetrics, hValid, _, hTextsNe⟩ := h
  rw [hMode] at hText hSource hTokensEq hMetrics
  simp only [Scan.Mode.pending, Scan.Mode.opened, Scan.Mode.count, List.reverse_nil,
    List.append_nil] at hText hSource hTokensEq hMetrics
  rw [Scan.closeLine_of_tokens_ne_nil hTokens]
  refine ⟨?_, ?_, ?_, ?_, ?_, ?_, ?_, ?_, ?_, ?_⟩
  · simp [hMode, Scan.Mode.pending, hText]
  · simp [hMode, Scan.Mode.pending]
  · simp [hMode, Scan.Mode.opened, Stretch.texts]
  · simp [hLine]
  · rw [Tokenizer.records_concat, ← hRecords, ← hLine, List.reverse_cons]
    simp [Tokenizer.record, hSource, hTokensEq]
  · simp [hWarnings]
  · simp [hMode, Scan.Mode.count, hMetrics]
  · simpa using hValid
  · simp [hMode, Scan.Mode.Valid]
  · intro line hMem
    rcases List.mem_append.mp hMem with hMem | hMem
    · exact hTextsNe line hMem
    · rw [List.mem_singleton.mp hMem]
      exact hTexts

end Reads

/-! ## Runs -/

/-- What was read of a text that goes on: the lines so far end with newlines, and the text has ended
in no region. -/
structure ReadsWhole (t : Tokenizer) (text : List Char) (s : Scan) (lines : List (List Stretch))
    (current : List Stretch) : Prop extends Reads t text s lines current where
  ended : ∀ line ∈ lines, (line.flatMap Stretch.chars).getLast? = some '\n'
  unclosed : ∀ stretch ∈ lines.flatten ++ current, stretch.isUnclosed = false
  detached : ∀ stretch ∈ lines.flatten ++ current, stretch.Detached t
  detached_mode : s.mode.Detached t

namespace ReadsWhole

variable {t : Tokenizer} {text : List Char} {s : Scan} {lines : List (List Stretch)}
  {current : List Stretch}

theorem start (t : Tokenizer) : ReadsWhole t [] {} [] [] :=
  ⟨Reads.start t, by simp, by simp, by simp, trivial⟩

theorem read (h : ReadsWhole t text s lines current) (c : Char) :
    ∃ current, ReadsWhole t (text ++ [c]) (t.read s c) lines current := by
  obtain ⟨more, hReads, hMode, hMore⟩ := h.toReads.read h.detached_mode c
  exact ⟨current ++ more, hReads, h.ended,
    forall_stretch_append h.unclosed fun stretch hMem => (hMore stretch hMem).1,
    forall_stretch_append h.detached fun stretch hMem => (hMore stretch hMem).2, hMode⟩

theorem closeLine (h : ReadsWhole t text s lines current) (hMode : s.mode = .word [])
    (hTokens : s.tokens ≠ []) (hEnd : (current.flatMap Stretch.chars).getLast? = some '\n') :
    ReadsWhole t text s.closeLine (lines ++ [current]) [] := by
  refine ⟨h.toReads.closeLine hMode hTokens, ?_, by simpa using h.unclosed,
    by simpa using h.detached, ?_⟩
  · intro line hMem
    rcases List.mem_append.mp hMem with hMem | hMem
    · exact h.ended line hMem
    · rw [List.mem_singleton.mp hMem]
      exact hEnd
  · rw [Scan.closeLine_of_tokens_ne_nil hTokens]
    exact h.detached_mode

theorem step (h : ReadsWhole t text s lines current) (c : Char) :
    ∃ lines current, ReadsWhole t (text ++ [c]) (t.step s c) lines current := by
  obtain ⟨current', hRead⟩ := h.read c
  unfold Tokenizer.step
  dsimp only
  split
  · rename_i buffer hMode
    split
    · rename_i hc
      have hSource : (t.read s c).source.head? = some '\n' := by
        rw [t.read_source, hc]
        rfl
      obtain ⟨rfl, hTokens, hEnd⟩ := hRead.toReads.newline hMode hSource
      exact ⟨_, _, hRead.closeLine hMode hTokens hEnd⟩
    · exact ⟨_, _, hRead⟩
  · exact ⟨_, _, hRead⟩

theorem foldl (h : ReadsWhole t text s lines current) (more : List Char) :
    ∃ lines current, ReadsWhole t (text ++ more) (more.foldl t.step s) lines current := by
  induction more generalizing text s lines current with
  | nil => exact ⟨lines, current, by rwa [List.append_nil]⟩
  | cons c more ih =>
    obtain ⟨lines', current', hStep⟩ := h.step c
    obtain ⟨lines'', current'', hRest⟩ := ih hStep
    refine ⟨lines'', current'', ?_⟩
    rw [List.append_assoc] at hRest
    exact hRest

end ReadsWhole

theorem exists_readsWhole (t : Tokenizer) (text : List Char) :
    ∃ lines current, ReadsWhole t text (text.foldl t.step {}) lines current :=
  (ReadsWhole.start t).foldl text

/-! ## The end of the text -/

namespace Reads

variable {t : Tokenizer} {text : List Char} {s : Scan} {lines : List (List Stretch)}
  {current : List Stretch} {content : List Char} {rule : RegionRule}

theorem abandon (h : Reads t text s lines current) (hMode : s.mode = .region rule content) :
    Reads t text (t.abandonRegion rule content s) lines
      (current ++ [.segment (.unclosed rule content.reverse)]) := by
  have hValid := h.valid_mode
  rw [hMode] at hValid
  obtain ⟨hMode', hSource, hFrame⟩ := t.abandonRegion_frame rule content s
  rw [← List.append_nil text]
  apply h.advance [] ((Segment.optional content.reverse).map String.ofList)
  · simp [hMode, hMode', Scan.Mode.pending, Stretch.chars]
  · exact hSource
  · simp [hMode, hMode', Scan.Mode.opened, Stretch.texts, Segment.texts]
  · exact t.abandonRegion_tokens rule content s
  · exact hFrame
  · rw [t.abandonRegion_warnings, Tokenizer.lineWarnings_segment]
    rfl
  · intro m hm
    rw [hMode] at hm
    rw [t.abandonRegion_metrics, hMode', hm]
    rfl
  · exact List.forall_mem_singleton.mpr hValid
  · rw [hMode']
    exact Or.inl rfl

end Reads

namespace Tokenizer

/-- The end of the text for what is being built. -/
def settle (t : Tokenizer) (s : Scan) : Scan :=
  match s.mode with
  | .word [] => s
  | .word buffer =>
    let text := String.ofList buffer.reverse
    let s := t.emit text (s.building [])
    match t.rule? text with
    | some rule => t.abandonRegion rule [] (t.enter rule s)
    | none => s
  | .region rule content => t.abandonRegion rule content s

theorem finish_eq (t : Tokenizer) (s : Scan) :
    t.finish s = if (t.settle s).source.isEmpty then t.settle s else (t.settle s).closeLine := by
  rfl

end Tokenizer

/-- Nothing is left open, and the text has ended at most inside the last stretch. -/
theorem ReadsWhole.settle {t : Tokenizer} {text : List Char} {s : Scan}
    {lines : List (List Stretch)} {current : List Stretch}
    (h : ReadsWhole t text s lines current) :
    ∃ last, Reads t text (t.settle s) lines (current ++ last) ∧ (t.settle s).mode = .word [] ∧
      last.length ≤ 1 ∧ ∀ stretch ∈ last, stretch.Detached t := by
  unfold Tokenizer.settle
  split
  · rename_i hMode
    exact ⟨[], by simpa using h.toReads, hMode, by simp, by simp⟩
  · rename_i buffer hNonempty hMode
    dsimp only
    split
    · rename_i rule hRule
      have hOpen := h.toReads.openWord hMode hNonempty hRule
      exact ⟨_, hOpen.abandon rfl, (t.abandonRegion_frame rule [] _).1, by simp,
        List.forall_mem_singleton.mpr RegionRule.detached_nil⟩
    · rename_i hRule
      exact ⟨_, h.toReads.endWord hMode hNonempty hRule, rfl, by simp,
        List.forall_mem_singleton.mpr trivial⟩
  · rename_i rule content hMode
    have hDetached := h.detached_mode
    rw [hMode] at hDetached
    exact ⟨_, h.toReads.abandon hMode, (t.abandonRegion_frame rule content s).1, by simp,
      List.forall_mem_singleton.mpr hDetached.region⟩

/-- What a scan gives, from the lines of the text and a rest that belongs to none of them. -/
structure Layout (t : Tokenizer) (text : List Char) (s : Scan) (lines : List (List Stretch))
    (tail : List Char) : Prop where
  text_eq : text = lines.flatten.flatMap Stretch.chars ++ tail
  records_eq : s.records.reverse = t.records lines
  warnings_eq : s.warnings.reverse = t.warnings lines
  metrics_eq : s.metrics =
    if tail = [] then Metrics.ofLines t.preferences t.limits (lines.map Stretch.segments)
    else (Metrics.ofLines t.preferences t.limits (lines.map Stretch.segments)).addDropped
  valid : ∀ stretch ∈ lines.flatten, stretch.Valid t
  texts_ne_nil : ∀ line ∈ lines, Stretch.texts line ≠ []
  tail_gaps : ∀ c ∈ tail, t.IsGap c
  /-- Every line but the last ends with a newline, and so does the last if there is a rest. -/
  ended : ∃ front last, lines = front ++ last ∧ last.length ≤ 1 ∧ (tail ≠ [] → last = []) ∧
    ∀ line ∈ front, (line.flatMap Stretch.chars).getLast? = some '\n'
  /-- The text ends at most inside the last stretch that is not a gap. -/
  unclosed : ∀ stretch ∈ lines.flatten.dropLast, stretch.isUnclosed = false
  detached : ∀ stretch ∈ lines.flatten, stretch.Detached t

namespace Layout

variable {t : Tokenizer} {text : List Char} {s : Scan} {lines : List (List Stretch)}
  {current : List Stretch}

/-- The text ended right after a line. -/
theorem of_source_eq_nil (h : Reads t text s lines current) (hMode : s.mode = .word [])
    (hSource : s.source = [])
    (hEnded : ∀ line ∈ lines, (line.flatMap Stretch.chars).getLast? = some '\n')
    (hUnclosed : ∀ stretch ∈ lines.flatten, stretch.isUnclosed = false)
    (hDetached : ∀ stretch ∈ lines.flatten, stretch.Detached t) :
    Layout t text s lines [] := by
  have hCurrent : current = [] := by
    have hChars := h.source_eq
    rw [hSource, List.reverse_nil] at hChars
    have hNil := (List.append_eq_nil_iff.mp hChars.symm).1
    apply List.eq_nil_iff_forall_not_mem.mpr
    intro stretch hMem
    exact (h.valid stretch (List.mem_append_right _ hMem)).chars_ne_nil
      (List.flatMap_eq_nil_iff.mp hNil stretch hMem)
  subst hCurrent
  refine ⟨?_, h.records_eq, ?_, ?_, ?_, h.texts_ne_nil, by simp, ?_, ?_, hDetached⟩
  · simpa [hMode, Scan.Mode.pending] using h.text_eq
  · simpa using h.warnings_eq
  · simpa [hMode, Scan.Mode.count] using h.metrics_eq
  · simpa using h.valid
  · exact ⟨lines, [], by simp, by simp, fun _ => rfl, hEnded⟩
  · exact fun stretch hMem => hUnclosed stretch ((List.dropLast_sublist _).subset hMem)

/-- The text ended in a line without tokens. -/
theorem of_tokens_eq_nil (h : Reads t text s lines current) (hMode : s.mode = .word [])
    (hSource : s.source ≠ []) (hTokens : s.tokens = [])
    (hEnded : ∀ line ∈ lines, (line.flatMap Stretch.chars).getLast? = some '\n')
    (hUnclosed : ∀ stretch ∈ lines.flatten, stretch.isUnclosed = false)
    (hDetached : ∀ stretch ∈ lines.flatten, stretch.Detached t) :
    Layout t text s.closeLine lines (current.flatMap Stretch.chars) := by
  have hTexts := (h.tokens_eq_nil_iff hMode).mp hTokens
  have hSegments : Stretch.segments current = [] := by
    apply List.eq_nil_iff_forall_not_mem.mpr
    intro s hMem
    exact s.texts_ne_nil (List.flatMap_eq_nil_iff.mp hTexts s hMem)
  have hTail : current.flatMap Stretch.chars ≠ [] := by
    have hChars := h.source_eq
    rw [hMode, Scan.Mode.pending, List.reverse_nil, List.append_nil] at hChars
    rw [← hChars]
    simpa using hSource
  rw [Scan.closeLine_of_tokens_eq_nil hTokens]
  refine ⟨?_, h.records_eq, ?_, ?_, ?_, h.texts_ne_nil, h.isGap_of_texts_eq_nil hTexts, ?_, ?_,
    hDetached⟩
  · simpa [hMode, Scan.Mode.pending] using h.text_eq
  · simpa [Tokenizer.lineWarnings, hSegments] using h.warnings_eq
  · rw [if_neg hTail, h.metrics_eq, hMode, hSegments]
    rfl
  · exact fun stretch hMem => h.valid stretch (List.mem_append_left _ hMem)
  · exact ⟨lines, [], by simp, by simp, fun _ => rfl, hEnded⟩
  · exact fun stretch hMem => hUnclosed stretch ((List.dropLast_sublist _).subset hMem)

/-- The text ended in a line with tokens, which becomes the last line. -/
theorem of_tokens_ne_nil (h : Reads t text s lines current) (hMode : s.mode = .word [])
    (hTokens : s.tokens ≠ [])
    (hEnded : ∀ line ∈ lines, (line.flatMap Stretch.chars).getLast? = some '\n')
    (hUnclosed : ∀ stretch ∈ (lines.flatten ++ current).dropLast, stretch.isUnclosed = false)
    (hDetached : ∀ stretch ∈ lines.flatten ++ current, stretch.Detached t) :
    Layout t text s.closeLine (lines ++ [current]) [] := by
  have hClose := h.closeLine hMode hTokens
  have hModeClose : s.closeLine.mode = .word [] := by
    rw [Scan.closeLine_of_tokens_ne_nil hTokens]
    exact hMode
  refine ⟨?_, hClose.records_eq, ?_, ?_, ?_, hClose.texts_ne_nil, by simp, ?_, ?_, ?_⟩
  · simpa [hModeClose, Scan.Mode.pending] using hClose.text_eq
  · simpa using hClose.warnings_eq
  · simpa [hModeClose, Scan.Mode.count] using hClose.metrics_eq
  · simpa using hClose.valid
  · exact ⟨lines, [current], rfl, by simp, by simp, hEnded⟩
  · simpa using hUnclosed
  · simpa using hDetached

end Layout

theorem exists_layout (t : Tokenizer) (text : List Char) :
    ∃ lines tail, Layout t text (t.scan text) lines tail := by
  obtain ⟨lines, current, hWhole⟩ := exists_readsWhole t text
  obtain ⟨last, hReads, hMode, hLast, hDetachedLast⟩ := hWhole.settle
  have hUnclosed : ∀ stretch ∈ lines.flatten, stretch.isUnclosed = false :=
    fun stretch hMem => hWhole.unclosed stretch (List.mem_append_left _ hMem)
  have hUnclosedLast : ∀ stretch ∈ (lines.flatten ++ (current ++ last)).dropLast,
      stretch.isUnclosed = false := by
    intro stretch hMem
    apply hWhole.unclosed
    rw [← List.append_assoc] at hMem
    cases last with
    | nil =>
      rw [List.append_nil] at hMem
      exact (List.dropLast_sublist _).subset hMem
    | cons final rest =>
      have hNil : rest = [] := List.eq_nil_of_length_eq_zero (by simpa using hLast)
      rwa [hNil, List.dropLast_concat] at hMem
  have hDetached : ∀ stretch ∈ lines.flatten, stretch.Detached t :=
    fun stretch hMem => hWhole.detached stretch (List.mem_append_left _ hMem)
  unfold Tokenizer.scan
  rw [t.finish_eq]
  by_cases hSource : (t.settle (text.foldl t.step {})).source = []
  · rw [if_pos (by simpa using hSource)]
    exact ⟨_, _,
      Layout.of_source_eq_nil hReads hMode hSource hWhole.ended hUnclosed hDetached⟩
  · rw [if_neg (by simpa using hSource)]
    by_cases hTokens : (t.settle (text.foldl t.step {})).tokens = []
    · exact ⟨_, _,
        Layout.of_tokens_eq_nil hReads hMode hSource hTokens hWhole.ended hUnclosed hDetached⟩
    · exact ⟨_, _, Layout.of_tokens_ne_nil hReads hMode hTokens hWhole.ended hUnclosedLast
        (forall_stretch_append hWhole.detached hDetachedLast)⟩

/-- What tokenizing gives follows from a layout of the text. -/
theorem exists_layout_tokenize (t : Tokenizer) (text : String) :
    ∃ lines tail, Layout t text.toList (t.scan text.toList) lines tail ∧
      (t.tokenize text).records = t.records lines ∧
      (t.tokenize text).metrics = (t.scan text.toList).metrics := by
  obtain ⟨lines, tail, hLayout⟩ := exists_layout t text.toList
  exact ⟨lines, tail, hLayout, hLayout.records_eq, rfl⟩

namespace Layout

variable {t : Tokenizer} {text : List Char} {s : Scan} {lines : List (List Stretch)}
  {tail : List Char}

theorem droppedLines_eq (h : Layout t text s lines tail) :
    s.metrics.droppedLines = if tail = [] then 0 else 1 := by
  rw [h.metrics_eq]
  split
  · exact Metrics.ofLines_droppedLines _
  · rw [Metrics.addDropped, Metrics.ofLines_droppedLines]

theorem totalLines_eq (h : Layout t text s lines tail) :
    s.metrics.totalLines = lines.length + s.metrics.droppedLines := by
  rw [h.droppedLines_eq, h.metrics_eq]
  split
  · rw [Metrics.ofLines_totalLines, List.length_map, Nat.add_zero]
  · rw [Metrics.addDropped, Metrics.ofLines_totalLines, List.length_map]

theorem capturedRegions_eq (h : Layout t text s lines tail) :
    s.metrics.capturedRegions =
      (lines.map Stretch.segments).flatten.countP Segment.isClosed := by
  rw [h.metrics_eq, ← Metrics.ofLines_capturedRegions]
  split <;> rfl

theorem unterminatedRegions_eq (h : Layout t text s lines tail) :
    s.metrics.unterminatedRegions =
      (lines.map Stretch.segments).flatten.countP Segment.isUnclosed := by
  rw [h.metrics_eq, ← Metrics.ofLines_unterminatedRegions]
  split <;> rfl

theorem getLast?_chars (h : Layout t text s lines tail) {i : Nat} (hi : i < lines.length) :
    (lines[i].flatMap Stretch.chars).getLast? = some '\n' ∨
      (i + 1 = lines.length ∧ tail = []) := by
  obtain ⟨front, last, rfl, hLast, hTail, hEnded⟩ := h.ended
  by_cases hFront : i < front.length
  · left
    rw [List.getElem_append_left hFront]
    exact hEnded _ (List.getElem_mem hFront)
  · right
    rw [List.length_append] at hi ⊢
    have hOne : last.length = 1 := by omega
    refine ⟨by omega, ?_⟩
    by_cases hNil : tail = []
    · exact hNil
    · rw [hTail hNil] at hOne
      cases hOne

theorem chars_ne_nil (h : Layout t text s lines tail) {line : List Stretch} (hLine : line ∈ lines) :
    line.flatMap Stretch.chars ≠ [] := by
  intro hNil
  apply h.texts_ne_nil line hLine
  cases line with
  | nil => rfl
  | cons stretch line =>
    have hValid := h.valid stretch (List.mem_flatten.mpr ⟨_, hLine, List.mem_cons_self⟩)
    exact absurd (List.flatMap_eq_nil_iff.mp hNil stretch List.mem_cons_self) hValid.chars_ne_nil

end Layout

end Lineation
