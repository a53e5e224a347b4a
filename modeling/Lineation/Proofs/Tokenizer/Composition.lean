import Lineation.Proofs.Tokenizer.Simulation

/-!
# Texts one after the other

After a text that is empty or ends with a newline outside a region, a scan is where it was at the
start but for what it has given so far. What follows is read as if it were a text of its own: the
records and counts of the two texts make up those of the whole.

* `Follows`: a state, and what it is when something was read before.
* `simulation_follows`: nothing that a scan does tells the two apart.
* `foldl_step_of_whole_lines`: where a scan is after such a text.
-/

namespace Lineation

/-- The record with a number that is greater by `offset`. -/
def LineRecord.shift (offset : Nat) (record : LineRecord) : LineRecord :=
  { record with number := record.number + offset }

/-- The counts of two texts and of both of them together. -/
structure Metrics.IsSum (first second whole : Metrics) : Prop where
  totalTokens : whole.totalTokens = first.totalTokens + second.totalTokens
  totalLines : whole.totalLines = first.totalLines + second.totalLines
  droppedLines : whole.droppedLines = first.droppedLines + second.droppedLines
  capturedRegions : whole.capturedRegions = first.capturedRegions + second.capturedRegions
  unterminatedRegions :
    whole.unterminatedRegions = first.unterminatedRegions + second.unterminatedRegions
  longestToken : whole.longestToken = max first.longestToken second.longestToken

/-- The state `s` of a scan, and what it is if `base` is where the scan started. -/
structure Follows (base s s' : Scan) : Prop where
  mode_eq : s'.mode = s.mode
  source_eq : s'.source = s.source
  tokens_eq : s'.tokens = s.tokens
  line_eq : s'.line = s.line + base.metrics.totalLines
  records_eq : s'.records = s.records.map (·.shift base.metrics.totalLines) ++ base.records
  metrics : Metrics.IsSum base.metrics s.metrics s'.metrics

namespace Metrics.IsSum

variable {first second whole : Metrics}

theorem addToken (h : IsSum first second whole) (preferences : LexicalPreferences)
    (text : String) :
    IsSum first (second.addToken preferences text) (whole.addToken preferences text) := by
  obtain ⟨hTokens, hLines, hDropped, hCaptured, hUnterminated, hLongest⟩ := h
  refine ⟨?_, hLines, hDropped, hCaptured, hUnterminated, ?_⟩
  · simp only [Metrics.addToken, hTokens]
    omega
  · simp only [Metrics.addToken, hLongest]
    split
    · omega
    · rfl

theorem addOpening (h : IsSum first second whole) (preferences : LexicalPreferences)
    (limits : Limits) (text : String) :
    IsSum first (second.addOpening preferences limits text)
      (whole.addOpening preferences limits text) := by
  unfold Metrics.addOpening
  split
  · exact ⟨h.1, h.2, h.3, h.4, h.5, h.6⟩
  · exact h

theorem addLine (h : IsSum first second whole) : IsSum first second.addLine whole.addLine := by
  obtain ⟨hTokens, hLines, hDropped, hCaptured, hUnterminated, hLongest⟩ := h
  refine ⟨hTokens, ?_, hDropped, hCaptured, hUnterminated, hLongest⟩
  simp only [Metrics.addLine, hLines]
  omega

theorem addDropped (h : IsSum first second whole) :
    IsSum first second.addDropped whole.addDropped := by
  obtain ⟨hTokens, hLines, hDropped, hCaptured, hUnterminated, hLongest⟩ := h
  refine ⟨hTokens, ?_, ?_, hCaptured, hUnterminated, hLongest⟩
  · simp only [Metrics.addDropped, hLines]
    omega
  · simp only [Metrics.addDropped, hDropped]
    omega

theorem addCaptured (h : IsSum first second whole) :
    IsSum first { second with capturedRegions := second.capturedRegions + 1 }
      { whole with capturedRegions := whole.capturedRegions + 1 } := by
  obtain ⟨hTokens, hLines, hDropped, hCaptured, hUnterminated, hLongest⟩ := h
  refine ⟨hTokens, hLines, hDropped, ?_, hUnterminated, hLongest⟩
  simp only [hCaptured]
  omega

theorem addUnterminated (h : IsSum first second whole) :
    IsSum first { second with unterminatedRegions := second.unterminatedRegions + 1 }
      { whole with unterminatedRegions := whole.unterminatedRegions + 1 } := by
  obtain ⟨hTokens, hLines, hDropped, hCaptured, hUnterminated, hLongest⟩ := h
  refine ⟨hTokens, hLines, hDropped, hCaptured, ?_, hLongest⟩
  simp only [hUnterminated]
  omega

end Metrics.IsSum

namespace Follows

variable {base s s' : Scan}

/-- Before the following text, the state is that at the start of the text before it. -/
theorem start {base : Scan} (hMode : base.mode = .word []) (hSource : base.source = [])
    (hTokens : base.tokens = []) (hLine : base.line = base.metrics.totalLines + 1) :
    Follows base {} base where
  mode_eq := hMode
  source_eq := hSource
  tokens_eq := hTokens
  line_eq := by rw [hLine, Nat.add_comm]
  records_eq := rfl
  metrics := ⟨rfl, rfl, rfl, rfl, rfl, (Nat.max_zero _).symm⟩

theorem closeLine (h : Follows base s s') : Follows base s.closeLine s'.closeLine := by
  obtain ⟨hMode, hSource, hTokens, hLine, hRecords, hMetrics⟩ := h
  have hNextLine : s'.line + 1 = s.line + 1 + base.metrics.totalLines := by omega
  by_cases hEmpty : s.tokens = []
  · rw [Scan.closeLine_of_tokens_eq_nil hEmpty,
      Scan.closeLine_of_tokens_eq_nil (hTokens.trans hEmpty)]
    exact ⟨hMode, rfl, rfl, hNextLine, hRecords, hMetrics.addDropped⟩
  · rw [Scan.closeLine_of_tokens_ne_nil hEmpty,
      Scan.closeLine_of_tokens_ne_nil (hTokens ▸ hEmpty)]
    refine ⟨hMode, rfl, rfl, hNextLine, ?_, hMetrics.addLine⟩
    rw [hSource, hTokens, hLine, hRecords]
    rfl

end Follows

theorem simulation_follows (t : Tokenizer) (base : Scan) : Simulation t t (Follows base) where
  toSameCut := SameCut.refl t
  mode_eq h := h.mode_eq
  isEmpty_eq h := by rw [h.source_eq]
  withMode h mode := ⟨rfl, h.source_eq, h.tokens_eq, h.line_eq, h.records_eq, h.metrics⟩
  push h c := ⟨h.mode_eq, congrArg (c :: ·) h.source_eq, h.tokens_eq, h.line_eq, h.records_eq,
    h.metrics⟩
  emit h text := ⟨h.mode_eq, h.source_eq, congrArg (t.token text :: ·) h.tokens_eq, h.line_eq,
    h.records_eq, h.metrics.addToken t.preferences text⟩
  opening h text := ⟨h.mode_eq, h.source_eq, h.tokens_eq, h.line_eq, h.records_eq,
    h.metrics.addOpening t.preferences t.limits text⟩
  captured h := ⟨h.mode_eq, h.source_eq, h.tokens_eq, h.line_eq, h.records_eq,
    h.metrics.addCaptured⟩
  unterminated h := ⟨h.mode_eq, h.source_eq, h.tokens_eq, h.line_eq, h.records_eq,
    h.metrics.addUnterminated⟩
  warnings h before after := ⟨h.mode_eq, h.source_eq, h.tokens_eq, h.line_eq, h.records_eq,
    h.metrics⟩
  closeLine h := h.closeLine

/-! ## The end of the first text -/

/-- A scan that is outside a region after a newline has nothing left of the line. -/
theorem ReadsWhole.step_newline {t : Tokenizer} {text : List Char} {s : Scan}
    {lines : List (List Stretch)} {current : List Stretch} {buffer : List Char}
    (h : ReadsWhole t text s lines current) (hMode : (t.step s '\n').mode = .word buffer) :
    (t.step s '\n').mode = .word [] ∧ (t.step s '\n').source = [] ∧
      (t.step s '\n').tokens = [] := by
  obtain ⟨current', hRead⟩ := h.read '\n'
  unfold Tokenizer.step at hMode ⊢
  dsimp only at hMode ⊢
  split
  · rename_i buffer' hModeRead
    have hSource : (t.read s '\n').source.head? = some '\n' := by
      rw [t.read_source]
      rfl
    obtain ⟨rfl, hTokens, _⟩ := hRead.toReads.newline hModeRead hSource
    rw [if_pos rfl, Scan.closeLine_of_tokens_ne_nil hTokens]
    exact ⟨hModeRead, rfl, rfl⟩
  · rename_i rule content hModeRead
    rw [hModeRead] at hMode
    dsimp only at hMode
    rw [hModeRead] at hMode
    cases hMode

namespace Tokenizer

variable {t : Tokenizer} {s : Scan}

/-- A text that ends inside a region is counted. -/
theorem unterminatedRegions_finish_ne_zero {rule : RegionRule} {content : List Char}
    (hMode : s.mode = .region rule content) :
    (t.finish s).metrics.unterminatedRegions ≠ 0 := by
  have hSettle : t.settle s = t.abandonRegion rule content s := by rw [settle, hMode]
  have hCount : (t.settle s).metrics.unterminatedRegions ≠ 0 := by
    rw [hSettle, abandonRegion_metrics]
    exact Nat.succ_ne_zero _
  rw [finish_eq]
  split
  · exact hCount
  · by_cases hTokens : (t.settle s).tokens = []
    · rw [Scan.closeLine_of_tokens_eq_nil hTokens]
      exact hCount
    · rw [Scan.closeLine_of_tokens_ne_nil hTokens]
      exact hCount

/-- At the start of a line the end of the text changes nothing. -/
theorem finish_eq_self (hMode : s.mode = .word []) (hSource : s.source = []) :
    t.finish s = s := by
  have hSettle : t.settle s = s := by rw [settle, hMode]
  rw [finish_eq, hSettle, hSource]
  rfl

/-- A text of whole lines is read to its end: nothing is being built after it. -/
theorem foldl_step_of_whole_lines (t : Tokenizer) (text : List Char)
    (hEnd : text = [] ∨ text.getLast? = some '\n')
    (hRegions : (t.scan text).metrics.unterminatedRegions = 0) :
    (text.foldl t.step {}).mode = .word [] ∧ (text.foldl t.step {}).source = [] ∧
      (text.foldl t.step {}).tokens = [] := by
  rcases List.eq_nil_or_concat text with rfl | ⟨front, c, rfl⟩
  · exact ⟨rfl, rfl, rfl⟩
  · have hNewline : c = '\n' := by simpa using hEnd
    subst hNewline
    obtain ⟨lines, current, hWhole⟩ := exists_readsWhole t front
    rw [List.concat_eq_append, scan, List.foldl_append] at hRegions
    rw [List.concat_eq_append, List.foldl_append]
    cases hMode : (t.step (front.foldl t.step {}) '\n').mode with
    | word buffer => exact hWhole.step_newline hMode
    | region rule content => exact absurd hRegions (unterminatedRegions_finish_ne_zero hMode)

/-- A text of whole lines that ends outside a region, and then any text: the records of the second
follow those of the first, with numbers that go on, and the counts add up. -/
theorem tokenize_append (t : Tokenizer) (a b : String)
    (hEnd : a = "" ∨ a.toList.getLast? = some '\n')
    (hRegions : (t.tokenize a).metrics.unterminatedRegions = 0) :
    (t.tokenize (a ++ b)).records = (t.tokenize a).records ++
        (t.tokenize b).records.map (·.shift (t.tokenize a).metrics.totalLines) ∧
      Metrics.IsSum (t.tokenize a).metrics (t.tokenize b).metrics
        (t.tokenize (a ++ b)).metrics := by
  have hEnd' : a.toList = [] ∨ a.toList.getLast? = some '\n' := by simpa using hEnd
  obtain ⟨hMode, hSource, hTokens⟩ := t.foldl_step_of_whole_lines a.toList hEnd' hRegions
  obtain ⟨lines, current, hWhole⟩ := exists_readsWhole t a.toList
  have hLine : (a.toList.foldl t.step {}).line =
      (a.toList.foldl t.step {}).metrics.totalLines + 1 := by
    rw [hWhole.line_eq, hWhole.toReads.totalLines_eq]
  have hFirst : t.scan a.toList = a.toList.foldl t.step {} := finish_eq_self hMode hSource
  have hSim := simulation_follows t (a.toList.foldl t.step {})
  have hBoth := hSim.finish
    (hSim.foldl (ReadsWhole.start t) (Follows.start hMode hSource hTokens hLine) b.toList)
  rw [← List.foldl_append, ← String.toList_append, ← hFirst] at hBoth
  refine ⟨?_, hBoth.metrics⟩
  have hRecords := congrArg List.reverse hBoth.records_eq
  rw [List.reverse_append, ← List.map_reverse] at hRecords
  exact hRecords

/-- The newline that ends the first text is the closing text of a region. -/
theorem tokenize_append_region_at_end :
    let t : Tokenizer := { individual := ['/'], separators := [' '], regions := [⟨"/", "\n"⟩] }
    (("a /b\n" = "" ∨ "a /b\n".toList.getLast? = some '\n') ∧
        (t.tokenize "a /b\n").metrics.unterminatedRegions = 0) ∧
      (t.tokenize ("a /b\n" ++ "c /")).records = (t.tokenize "a /b\n").records ++
        (t.tokenize "c /").records.map (·.shift (t.tokenize "a /b\n").metrics.totalLines) ∧
      Metrics.IsSum (t.tokenize "a /b\n").metrics (t.tokenize "c /").metrics
        (t.tokenize ("a /b\n" ++ "c /")).metrics := by
  intro t
  have hEnd : "a /b\n" = "" ∨ "a /b\n".toList.getLast? = some '\n' := by decide
  have hRegions : (t.tokenize "a /b\n").metrics.unterminatedRegions = 0 := by decide
  exact ⟨⟨hEnd, hRegions⟩, tokenize_append t "a /b\n" "c /" hEnd hRegions⟩

end Tokenizer

end Lineation
