import Lineation.Proofs.Tokenizer.Tally

/-!
# What a scan has read

`Reads t text s lines current` says that `s` is the state of a scan after `text`, where `lines` are
the lines that were ended and `current` is what is known of the line that is being read. Every
field of `s` is determined by them and by what is being built.

* `Reads.start`: the relation holds before the first character.
* `Reads.advance`: it is kept by whatever adds stretches to the current line.
* `Reads.read`: reading a character does that, ends the text in none of the new stretches, and
  opens no region before the end of the word that opens it.

A character can do two things at once: it ends a word and then is read on its own. The two are kept
apart: `Reads.endWord` and `Reads.openWord` take no character, the other lemmas take one.
-/

namespace Lineation

namespace Scan.Mode

/-- The characters of what is being built, with the opening text of a region. -/
def pending : Mode → List Char
  | word buffer => buffer.reverse
  | region rule content => rule.opening.toList ++ content.reverse

/-- The token of what is being built that was met already. -/
def opened : Mode → List String
  | word _ => []
  | region rule _ => [rule.opening]

/-- What a tokenizer can be building. -/
def Valid (t : Tokenizer) : Mode → Prop
  | word buffer => buffer = [] ∨ t.IsWord buffer.reverse
  | region rule content =>
    t.IsHead rule.opening.toList ∧ t.IsFirst rule ∧ rule.Running content.reverse

/-- Whatever character comes next, the word that opened a region does not go on with the region. -/
def Detached (t : Tokenizer) : Mode → Prop
  | word _ => True
  | region rule content => ∀ c, rule.Detached t (content.reverse ++ [c])

theorem detached_of_eq_word {t : Tokenizer} {mode : Mode} {buffer : List Char}
    (h : mode = .word buffer) : mode.Detached t := by
  rw [h]
  trivial

theorem Detached.region {t : Tokenizer} {rule : RegionRule} {content : List Char}
    (h : (Mode.region rule content).Detached t) : rule.Detached t content.reverse :=
  (h default).of_append

/-- Counts the token that was met already. -/
def count (preferences : LexicalPreferences) (limits : Limits) (m : Metrics) : Mode → Metrics
  | word _ => m
  | region rule _ => m.addHead preferences limits rule

end Scan.Mode

namespace Tokenizer

/-- The record of a line. -/
def record (t : Tokenizer) (number : Nat) (line : List Stretch) : LineRecord :=
  ⟨number, String.ofList (line.flatMap Stretch.chars),
    ((Stretch.texts line).map t.token).toArray⟩

/-- The records of some lines, numbered from one. -/
def records (t : Tokenizer) (lines : List (List Stretch)) : List LineRecord :=
  lines.mapIdx fun i line => t.record (i + 1) line

@[simp]
theorem records_concat (t : Tokenizer) (lines : List (List Stretch)) (line : List Stretch) :
    t.records (lines ++ [line]) = t.records lines ++ [t.record (lines.length + 1) line] := by
  simp [records, List.mapIdx_append]

theorem source_record (t : Tokenizer) (number : Nat) (line : List Stretch) :
    (t.record number line).source.toList = line.flatMap Stretch.chars := by
  simp [record]

theorem texts_record (t : Tokenizer) (number : Nat) (line : List Stretch) :
    (t.record number line).texts = Stretch.texts line := by
  simp [record, LineRecord.texts, Function.comp_def, token]

@[simp]
theorem length_records (t : Tokenizer) (lines : List (List Stretch)) :
    (t.records lines).length = lines.length := by
  simp [records]

theorem getElem_records (t : Tokenizer) (lines : List (List Stretch)) {i : Nat}
    (hRecord : i < (t.records lines).length) (hLine : i < lines.length) :
    (t.records lines)[i] = t.record (i + 1) lines[i] := by
  simp [records]

theorem mem_records {t : Tokenizer} {lines : List (List Stretch)} {record : LineRecord}
    (h : record ∈ t.records lines) : ∃ number, ∃ line ∈ lines, record = t.record number line := by
  obtain ⟨i, hRecord, rfl⟩ := List.mem_iff_getElem.mp h
  have hLine : i < lines.length := t.length_records lines ▸ hRecord
  exact ⟨i + 1, lines[i], List.getElem_mem hLine, t.getElem_records lines hRecord hLine⟩

/-- What does not depend on the number of a record is that of its line. -/
theorem map_records {α : Type} {t : Tokenizer} {f : LineRecord → α} {g : List Stretch → α}
    (h : ∀ number line, f (t.record number line) = g line) (lines : List (List Stretch)) :
    (t.records lines).map f = lines.map g := by
  apply List.ext_getElem
  · simp
  · intro i hRecord hMapped
    have hLine : i < lines.length := by simpa using hMapped
    rw [List.getElem_map, List.getElem_map, t.getElem_records lines (by simpa using hLine) hLine,
      h]

theorem flatMap_source_records (t : Tokenizer) (lines : List (List Stretch)) :
    (t.records lines).flatMap (·.source.toList) = lines.flatten.flatMap Stretch.chars := by
  rw [List.flatMap_def, map_records t.source_record, ← List.flatMap_def, List.flatten_eq_flatMap,
    List.flatMap_assoc]
  rfl

theorem flatMap_texts_records (t : Tokenizer) (lines : List (List Stretch)) :
    (t.records lines).flatMap LineRecord.texts = Stretch.texts lines.flatten := by
  rw [List.flatMap_def, map_records t.texts_record, Stretch.texts, Stretch.segments_flatten,
    ← List.flatMap_def, ← List.flatMap_def, List.flatMap_assoc]
  rfl

/-! ## Warnings of lines -/

open Diagnostics

/-- The warning about a long region of a line, if it applies. -/
def longRegion (t : Tokenizer) (number length : Nat) : List Event :=
  if t.preferences.warnThresholds && length > t.limits.regionLengthWarning then
    [{ level := .warning
       code := ⟨"W023"⟩
       message := "Delimited region above length threshold"
       line := some number
       context := [
        ("length", toString length),
        ("threshold", toString t.limits.regionLengthWarning)] }]
  else []

/-- The warning about a region of a line in which the text ended, if it is wanted. -/
def openAtEnd (t : Tokenizer) (number : Nat) (rule : RegionRule) : List Event :=
  if t.preferences.warnUnterminated then
    [{ level := .warning
       code := ⟨"W021"⟩
       message := "Input ended inside a delimited region"
       line := some number
       context := [("end", Text.escaped rule.closing), ("start", Text.escaped rule.opening)] }]
  else []

/-- The warnings about a segment of a line. -/
def segmentWarnings (t : Tokenizer) (number : Nat) : Segment → List Event
  | .plain _ => []
  | .closed rule body => t.longRegion number (body.length - rule.closing.length)
  | .unclosed rule _ => t.openAtEnd number rule

/-- The warnings about a line. -/
def lineWarnings (t : Tokenizer) (number : Nat) (line : List Stretch) : List Event :=
  (Stretch.segments line).flatMap (t.segmentWarnings number)

/-- The warnings about some lines, numbered from one. -/
def warnings (t : Tokenizer) (lines : List (List Stretch)) : List Event :=
  (lines.mapIdx fun i line => t.lineWarnings (i + 1) line).flatten

@[simp]
theorem lineWarnings_nil (t : Tokenizer) (number : Nat) : t.lineWarnings number [] = [] := rfl

@[simp]
theorem lineWarnings_append (t : Tokenizer) (number : Nat) (line more : List Stretch) :
    t.lineWarnings number (line ++ more) =
      t.lineWarnings number line ++ t.lineWarnings number more := by
  simp [lineWarnings]

@[simp]
theorem lineWarnings_segment (t : Tokenizer) (number : Nat) (segment : Segment) :
    t.lineWarnings number [.segment segment] = t.segmentWarnings number segment := by
  simp [lineWarnings]

@[simp]
theorem warnings_concat (t : Tokenizer) (lines : List (List Stretch)) (line : List Stretch) :
    t.warnings (lines ++ [line]) = t.warnings lines ++ t.lineWarnings (lines.length + 1) line := by
  simp [warnings, List.mapIdx_append]

/-! ## What tokens and the ends of regions change -/

theorem emitContent_tokens (t : Tokenizer) (chars : List Char) (s : Scan) :
    (t.emitContent chars s).tokens =
      (((Segment.optional chars).map String.ofList).map t.token).reverse ++ s.tokens := by
  unfold emitContent Segment.optional
  split <;> rfl

theorem emitContent_metrics (t : Tokenizer) (chars : List Char) (s : Scan) :
    (t.emitContent chars s).metrics =
      s.metrics.addTexts t.preferences ((Segment.optional chars).map String.ofList) := by
  unfold emitContent Segment.optional
  split <;> rfl

theorem emitContent_frame (t : Tokenizer) (chars : List Char) (s : Scan) :
    (t.emitContent chars s).mode = s.mode ∧ (t.emitContent chars s).source = s.source ∧
      (t.emitContent chars s).line = s.line ∧ (t.emitContent chars s).records = s.records := by
  unfold emitContent
  split <;> exact ⟨rfl, rfl, rfl, rfl⟩

theorem emitContent_warnings (t : Tokenizer) (chars : List Char) (s : Scan) :
    (t.emitContent chars s).warnings = s.warnings := by
  unfold emitContent
  split <;> rfl

/-- The tokens that a region gives after its opening text, latest character first. -/
theorem reverse_drop_eq_content (rule : RegionRule) (content : List Char) :
    (content.drop rule.closing.length).reverse = rule.content content.reverse := by
  rw [RegionRule.content, List.reverse_drop, List.length_reverse]

theorem closeRegion_tokens (t : Tokenizer) (rule : RegionRule) (content : List Char) (s : Scan) :
    (t.closeRegion rule content s).tokens =
      (((Segment.optional (rule.content content.reverse)).map String.ofList ++
        [rule.closing]).map t.token).reverse ++ s.tokens := by
  unfold closeRegion
  simp only [emit, emitContent_tokens, reverse_drop_eq_content]
  split <;> simp [Scan.warn]

theorem closeRegion_metrics (t : Tokenizer) (rule : RegionRule) (content : List Char) (s : Scan) :
    (t.closeRegion rule content s).metrics =
      let m := s.metrics.addTexts t.preferences
        ((Segment.optional (rule.content content.reverse)).map String.ofList ++ [rule.closing])
      { m with capturedRegions := m.capturedRegions + 1 } := by
  unfold closeRegion
  simp only [emit, emitContent_metrics, reverse_drop_eq_content, Metrics.addTexts,
    List.foldl_append, List.foldl_cons, List.foldl_nil]
  split <;> rfl

theorem closeRegion_frame (t : Tokenizer) (rule : RegionRule) (content : List Char) (s : Scan) :
    (t.closeRegion rule content s).mode = .word [] ∧
      (t.closeRegion rule content s).source = s.source ∧
      (t.closeRegion rule content s).line = s.line ∧
      (t.closeRegion rule content s).records = s.records := by
  unfold closeRegion
  simp only [emit, emitContent_frame]
  split <;> exact ⟨rfl, rfl, rfl, rfl⟩

theorem closeRegion_warnings (t : Tokenizer) (rule : RegionRule) (content : List Char) (s : Scan) :
    (t.closeRegion rule content s).warnings =
      (t.longRegion s.line (content.length - rule.closing.length)).reverse ++ s.warnings := by
  unfold closeRegion longRegion
  simp only [emit, emitContent_warnings]
  split <;> rfl

theorem abandonRegion_tokens (t : Tokenizer) (rule : RegionRule) (content : List Char) (s : Scan) :
    (t.abandonRegion rule content s).tokens =
      (((Segment.optional content.reverse).map String.ofList).map t.token).reverse ++
        s.tokens := by
  unfold abandonRegion
  dsimp only
  split <;> simp [Scan.warn, emitContent_tokens]

theorem abandonRegion_metrics (t : Tokenizer) (rule : RegionRule) (content : List Char)
    (s : Scan) :
    (t.abandonRegion rule content s).metrics =
      let m := s.metrics.addTexts t.preferences
        ((Segment.optional content.reverse).map String.ofList)
      { m with unterminatedRegions := m.unterminatedRegions + 1 } := by
  have hMetrics : ∀ s : Scan, (t.emitContent content.reverse
      { s with
        mode := .word []
        metrics := { s.metrics with
          unterminatedRegions := s.metrics.unterminatedRegions + 1 } }).metrics =
      let m := s.metrics.addTexts t.preferences
        ((Segment.optional content.reverse).map String.ofList)
      { m with unterminatedRegions := m.unterminatedRegions + 1 } := by
    intro s
    unfold emitContent Segment.optional
    split <;> rfl
  unfold abandonRegion
  dsimp only
  split
  · exact hMetrics s
  · exact hMetrics s

theorem abandonRegion_frame (t : Tokenizer) (rule : RegionRule) (content : List Char) (s : Scan) :
    (t.abandonRegion rule content s).mode = .word [] ∧
      (t.abandonRegion rule content s).source = s.source ∧
      (t.abandonRegion rule content s).line = s.line ∧
      (t.abandonRegion rule content s).records = s.records := by
  unfold abandonRegion
  dsimp only
  split <;> simp [Scan.warn, emitContent_frame]

theorem abandonRegion_warnings (t : Tokenizer) (rule : RegionRule) (content : List Char)
    (s : Scan) :
    (t.abandonRegion rule content s).warnings = (t.openAtEnd s.line rule).reverse ++ s.warnings := by
  unfold abandonRegion openAtEnd
  dsimp only
  split
  · simp only [Scan.warn, emitContent_warnings, emitContent_frame]
    rfl
  · simp [emitContent_warnings]

/-- A region whose opening text was met, before its first character. -/
def enter (t : Tokenizer) (rule : RegionRule) (s : Scan) : Scan :=
  { s with
    mode := .region rule []
    metrics := s.metrics.addOpening t.preferences t.limits rule.opening }

theorem openRegion_nil (t : Tokenizer) (rule : RegionRule) (s : Scan) :
    t.openRegion rule [] s = t.enter rule s := rfl

end Tokenizer

/-- What holds of the stretches so far and of those that follow holds of all. -/
theorem forall_stretch_append {P : Stretch → Prop} {lines : List (List Stretch)}
    {current more : List Stretch} (h : ∀ stretch ∈ lines.flatten ++ current, P stretch)
    (hMore : ∀ stretch ∈ more, P stretch) :
    ∀ stretch ∈ lines.flatten ++ (current ++ more), P stretch := by
  rw [← List.append_assoc]
  exact List.forall_mem_append.mpr ⟨h, hMore⟩

/-- What was read of a text: the lines that were ended, and the stretches of the next one. -/
structure Reads (t : Tokenizer) (text : List Char) (s : Scan) (lines : List (List Stretch))
    (current : List Stretch) : Prop where
  text_eq : text = (lines.flatten ++ current).flatMap Stretch.chars ++ s.mode.pending
  source_eq : s.source.reverse = current.flatMap Stretch.chars ++ s.mode.pending
  tokens_eq : s.tokens.reverse = (Stretch.texts current ++ s.mode.opened).map t.token
  line_eq : s.line = lines.length + 1
  records_eq : s.records.reverse = t.records lines
  warnings_eq : s.warnings.reverse = t.warnings lines ++ t.lineWarnings (lines.length + 1) current
  metrics_eq : s.metrics = s.mode.count t.preferences t.limits
    ((Metrics.ofLines t.preferences t.limits (lines.map Stretch.segments)).addSegments
      t.preferences t.limits (Stretch.segments current))
  valid : ∀ stretch ∈ lines.flatten ++ current, stretch.Valid t
  valid_mode : s.mode.Valid t
  texts_ne_nil : ∀ line ∈ lines, Stretch.texts line ≠ []

/-- What was read of a text, when the stretches of the next line start with `current` and the text
has ended in none of those that follow. -/
def ReadsOn (t : Tokenizer) (text : List Char) (s : Scan) (lines : List (List Stretch))
    (current : List Stretch) : Prop :=
  ∃ more, Reads t text s lines (current ++ more) ∧ s.mode.Detached t ∧
    ∀ stretch ∈ more, stretch.isUnclosed = false ∧ stretch.Detached t

namespace Reads

variable {t : Tokenizer} {text : List Char} {s : Scan} {lines : List (List Stretch)}
  {current : List Stretch} {buffer content : List Char} {rule : RegionRule} {c : Char}

theorem start (t : Tokenizer) : Reads t [] {} [] [] where
  text_eq := rfl
  source_eq := rfl
  tokens_eq := rfl
  line_eq := rfl
  records_eq := rfl
  warnings_eq := rfl
  metrics_eq := rfl
  valid := by simp
  valid_mode := Or.inl rfl
  texts_ne_nil := by simp

/-- What was read goes on by some characters, `more` being what is known of them and of what was
being built. -/
theorem advance {s' : Scan} (h : Reads t text s lines current) (new : List Char)
    (newTexts : List String) (more : List Stretch)
    (hChars : s.mode.pending ++ new = more.flatMap Stretch.chars ++ s'.mode.pending)
    (hSource : s'.source = new.reverse ++ s.source)
    (hTexts : s.mode.opened ++ newTexts = Stretch.texts more ++ s'.mode.opened)
    (hTokens : s'.tokens = (newTexts.map t.token).reverse ++ s.tokens)
    (hFrame : s'.line = s.line ∧ s'.records = s.records)
    (hWarnings : s'.warnings = (t.lineWarnings s.line more).reverse ++ s.warnings)
    (hMetrics : ∀ m, s.metrics = s.mode.count t.preferences t.limits m → s'.metrics =
      s'.mode.count t.preferences t.limits
        (m.addSegments t.preferences t.limits (Stretch.segments more)))
    (hValid : ∀ stretch ∈ more, stretch.Valid t) (hMode : s'.mode.Valid t) :
    Reads t (text ++ new) s' lines (current ++ more) where
  text_eq := by
    calc text ++ new
        = (lines.flatten ++ current).flatMap Stretch.chars ++ (s.mode.pending ++ new) := by
          rw [h.text_eq, List.append_assoc]
      _ = (lines.flatten ++ (current ++ more)).flatMap Stretch.chars ++ s'.mode.pending := by
          rw [hChars]
          simp
  source_eq := by
    calc s'.source.reverse
        = current.flatMap Stretch.chars ++ (s.mode.pending ++ new) := by
          rw [hSource, List.reverse_append, List.reverse_reverse, h.source_eq, List.append_assoc]
      _ = (current ++ more).flatMap Stretch.chars ++ s'.mode.pending := by
          rw [hChars]
          simp
  tokens_eq := by
    calc s'.tokens.reverse
        = (Stretch.texts current ++ (s.mode.opened ++ newTexts)).map t.token := by
          rw [hTokens, List.reverse_append, List.reverse_reverse, h.tokens_eq, ← List.map_append,
            List.append_assoc]
      _ = (Stretch.texts (current ++ more) ++ s'.mode.opened).map t.token := by
          rw [hTexts]
          simp
  line_eq := hFrame.1.trans h.line_eq
  records_eq := by rw [hFrame.2, h.records_eq]
  warnings_eq := by
    rw [hWarnings, List.reverse_append, List.reverse_reverse, h.warnings_eq, h.line_eq,
      Tokenizer.lineWarnings_append, List.append_assoc]
  metrics_eq := by
    rw [hMetrics _ h.metrics_eq, Stretch.segments_append, Metrics.addSegments_append]
  valid := forall_stretch_append h.valid hValid
  valid_mode := hMode
  texts_ne_nil := h.texts_ne_nil

/-! ## Heads

A head is a word that was being built, or nothing and then a character that is alone. -/

/-- A head that opens nothing. -/
theorem endHead (h : Reads t text s lines current) (hMode : s.mode = .word buffer)
    (new : List Char) (hHead : t.IsHead (buffer.reverse ++ new))
    (hRule : t.rule? (String.ofList (buffer.reverse ++ new)) = none) :
    Reads t (text ++ new)
      (t.emit (String.ofList (buffer.reverse ++ new))
        ({ s with source := new.reverse ++ s.source }.building []))
      lines (current ++ [.segment (.plain (buffer.reverse ++ new))]) := by
  have hPlain : (Segment.plain (buffer.reverse ++ new)).Valid t :=
    ⟨hHead, Tokenizer.rule?_eq_none_iff.mp hRule⟩
  apply h.advance new [String.ofList (buffer.reverse ++ new)]
    [.segment (.plain (buffer.reverse ++ new))]
  · simp [hMode, Scan.Mode.pending, Stretch.chars, Tokenizer.emit, Scan.building]
  · rfl
  · simp [hMode, Scan.Mode.opened, Stretch.texts, Segment.texts, Tokenizer.emit, Scan.building]
  · rfl
  · exact ⟨rfl, rfl⟩
  · rfl
  · intro m hm
    rw [hMode] at hm
    exact congrArg (Metrics.addToken t.preferences (String.ofList (buffer.reverse ++ new))) hm
  · exact List.forall_mem_singleton.mpr hPlain
  · exact Or.inl rfl

/-- A head that opens a region. -/
theorem openHead (h : Reads t text s lines current) (hMode : s.mode = .word buffer)
    (new : List Char) (hHead : t.IsHead (buffer.reverse ++ new))
    (hRule : t.rule? (String.ofList (buffer.reverse ++ new)) = some rule) :
    Reads t (text ++ new)
      (t.enter rule (t.emit (String.ofList (buffer.reverse ++ new))
        ({ s with source := new.reverse ++ s.source }.building [])))
      lines current := by
  obtain ⟨hOpening, hFirst⟩ := Tokenizer.rule?_eq_some_iff.mp hRule
  have hChars : rule.opening.toList = buffer.reverse ++ new := by
    rw [hOpening, String.toList_ofList]
  rw [← hChars] at hHead
  rw [← List.append_nil current, ← hOpening]
  apply h.advance new [rule.opening] []
  · simp [hMode, Scan.Mode.pending, Tokenizer.enter, hChars]
  · rfl
  · simp [hMode, Scan.Mode.opened, Tokenizer.enter, Stretch.texts]
  · rfl
  · exact ⟨rfl, rfl⟩
  · rfl
  · intro m hm
    rw [hMode] at hm
    exact congrArg (Metrics.addHead t.preferences t.limits rule) hm
  · simp
  · exact ⟨hHead, hFirst, rule.running_nil⟩

theorem isWord (h : Reads t text s lines current) (hMode : s.mode = .word buffer)
    (hNonempty : buffer ≠ []) : t.IsWord buffer.reverse := by
  have hValid := h.valid_mode
  rw [hMode] at hValid
  exact hValid.resolve_left hNonempty

theorem endWord (h : Reads t text s lines current) (hMode : s.mode = .word buffer)
    (hNonempty : buffer ≠ []) (hRule : t.rule? (String.ofList buffer.reverse) = none) :
    Reads t text (t.emit (String.ofList buffer.reverse) (s.building [])) lines
      (current ++ [.segment (.plain buffer.reverse)]) := by
  have hHead : t.IsHead (buffer.reverse ++ []) := by
    rw [List.append_nil]
    exact Or.inr (h.isWord hMode hNonempty)
  have hRule' : t.rule? (String.ofList (buffer.reverse ++ [])) = none := by
    rwa [List.append_nil]
  have hEnd := h.endHead hMode [] hHead hRule'
  simp only [List.append_nil] at hEnd
  exact hEnd

theorem openWord (h : Reads t text s lines current) (hMode : s.mode = .word buffer)
    (hNonempty : buffer ≠ []) (hRule : t.rule? (String.ofList buffer.reverse) = some rule) :
    Reads t text (t.enter rule (t.emit (String.ofList buffer.reverse) (s.building []))) lines
      current := by
  have hHead : t.IsHead (buffer.reverse ++ []) := by
    rw [List.append_nil]
    exact Or.inr (h.isWord hMode hNonempty)
  have hRule' : t.rule? (String.ofList (buffer.reverse ++ [])) = some rule := by
    rwa [List.append_nil]
  have hOpen := h.openHead hMode [] hHead hRule'
  simp only [List.append_nil] at hOpen
  exact hOpen

/-! ## Taking a character -/

/-- A character goes on with a word, or starts one. -/
theorem takeWord (h : Reads t text s lines current) (hMode : s.mode = .word buffer)
    (hWord : t.IsWord (c :: buffer).reverse) :
    Reads t (text ++ [c]) ((s.push c).building (c :: buffer)) lines current := by
  rw [← List.append_nil current]
  apply h.advance [c] [] []
  · simp [hMode, Scan.Mode.pending, Scan.building]
  · rfl
  · simp [hMode, Scan.Mode.opened, Scan.building, Stretch.texts]
  · rfl
  · exact ⟨rfl, rfl⟩
  · rfl
  · intro m hm
    rw [hMode] at hm
    exact hm
  · simp
  · exact Or.inr hWord

theorem takeGap (h : Reads t text s lines current) (hMode : s.mode = .word []) (hc : t.IsGap c) :
    Reads t (text ++ [c]) (s.push c) lines (current ++ [.gap c]) := by
  apply h.advance [c] [] [.gap c]
  · simp [hMode, Scan.Mode.pending, Scan.push, Stretch.chars]
  · rfl
  · simp [hMode, Scan.Mode.opened, Scan.push, Stretch.texts]
  · rfl
  · exact ⟨rfl, rfl⟩
  · rfl
  · intro m hm
    simpa [hMode, Scan.push, Scan.Mode.count] using hm
  · exact List.forall_mem_singleton.mpr hc
  · exact h.valid_mode

theorem readsOn (h : Reads t text s lines current) (hMode : s.mode.Detached t) :
    ReadsOn t text s lines current :=
  ⟨[], by rwa [List.append_nil], hMode, by simp⟩

/-- A character that is alone is a token, which may open a region. -/
theorem takeAlone (h : Reads t text s lines current) (hMode : s.mode = .word [])
    (hc : t.IsAlone c) : ReadsOn t (text ++ [c]) (t.single c (s.push c)) lines current := by
  have hHead : t.IsHead ([].reverse ++ [c]) := Or.inl ⟨c, hc, rfl⟩
  have hPush : { s with source := [c].reverse ++ s.source }.building [] = s.push c := by
    cases s
    simp_all [Scan.building, Scan.push]
  cases hRule : t.rule? (String.singleton c) with
  | none =>
    have hEnd := h.endHead hMode [c] hHead hRule
    rw [hPush] at hEnd
    refine ⟨[.segment (.plain [c])], ?_⟩
    simp only [Tokenizer.single, hRule]
    exact ⟨hEnd, Scan.Mode.detached_of_eq_word hMode,
      List.forall_mem_singleton.mpr ⟨rfl, trivial⟩⟩
  | some rule =>
    have hOpen := h.openHead hMode [c] hHead hRule
    have hOpening : rule.opening.toList = [c] := by
      rw [(Tokenizer.rule?_eq_some_iff.mp hRule).1, String.toList_singleton]
    rw [hPush] at hOpen
    simp only [Tokenizer.single, hRule, Tokenizer.openRegion_nil]
    exact hOpen.readsOn fun _ => RegionRule.detached_of_isAlone hOpening hc _

/-- A character of a region may end it. -/
theorem collect (h : Reads t text s lines current) (hMode : s.mode = .region rule content)
    (hDetached : rule.Detached t (content.reverse ++ [c])) :
    ReadsOn t (text ++ [c]) (t.collect rule (c :: content) (s.push c)) lines current := by
  have hValid := h.valid_mode
  rw [hMode] at hValid
  obtain ⟨hHead, hFirst, hRunning⟩ := hValid
  unfold Tokenizer.collect
  split
  · rename_i hClosed
    have hEnds := (rule.closedBy_iff _).mp hClosed
    rw [List.reverse_cons] at hEnds
    obtain ⟨hMode', hSource, hFrame⟩ := t.closeRegion_frame rule (c :: content) (s.push c)
    refine ⟨[.segment (.closed rule (content.reverse ++ [c]))], ?_,
      Scan.Mode.detached_of_eq_word hMode', List.forall_mem_singleton.mpr ⟨rfl, hDetached⟩⟩
    apply h.advance [c] ((Segment.optional (rule.content (content.reverse ++ [c]))).map
      String.ofList ++ [rule.closing])
    · simp [hMode, hMode', Scan.Mode.pending, Stretch.chars]
    · exact hSource
    · simp [hMode, hMode', Scan.Mode.opened, Stretch.texts, Segment.texts]
    · rw [t.closeRegion_tokens, List.reverse_cons]
      rfl
    · exact hFrame
    · rw [t.closeRegion_warnings, List.length_cons, Tokenizer.lineWarnings_segment]
      simp [Tokenizer.segmentWarnings, Scan.push]
    · intro m hm
      rw [hMode] at hm
      have hPush : (s.push c).metrics = m.addHead t.preferences t.limits rule := hm
      rw [t.closeRegion_metrics, List.reverse_cons, hMode', hPush]
      rfl
    · refine List.forall_mem_singleton.mpr ⟨hHead, hFirst, hEnds, ?_⟩
      rwa [List.dropLast_concat]
    · rw [hMode']
      exact Or.inl rfl
  · rename_i hOpen
    have hNotEnds : ¬ rule.Ends (content.reverse ++ [c]) := by
      rw [← List.reverse_cons, ← rule.closedBy_iff]
      exact hOpen
    have hGo : Reads t (text ++ [c]) { s.push c with mode := .region rule (c :: content) } lines
        (current ++ []) := by
      apply h.advance [c] [] []
      · simp [hMode, Scan.Mode.pending]
      · rfl
      · simp [hMode, Scan.Mode.opened, Stretch.texts]
      · rfl
      · exact ⟨rfl, rfl⟩
      · rfl
      · intro m hm
        rw [hMode] at hm
        exact hm
      · simp
      · refine ⟨hHead, hFirst, ?_⟩
        rw [List.reverse_cons]
        exact hRunning.snoc hNotEnds
    rw [List.append_nil] at hGo
    refine hGo.readsOn fun next => ?_
    rw [List.reverse_cons]
    exact hDetached.append (by simp) [next]

end Reads

theorem ReadsOn.of_append {t : Tokenizer} {text : List Char} {s : Scan}
    {lines : List (List Stretch)} {current more : List Stretch}
    (h : ReadsOn t text s lines (current ++ more))
    (hMore : ∀ stretch ∈ more, stretch.isUnclosed = false ∧ stretch.Detached t) :
    ReadsOn t text s lines current := by
  obtain ⟨rest, hReads, hMode, hRest⟩ := h
  exact ⟨more ++ rest, by rwa [← List.append_assoc], hMode,
    List.forall_mem_append.mpr ⟨hMore, hRest⟩⟩

namespace Reads

variable {t : Tokenizer} {text : List Char} {s : Scan} {lines : List (List Stretch)}
  {current : List Stretch} {buffer : List Char} {c : Char}

/-- A word is ended by a character that is then read on its own, unless the word opened a region.
The character is then the first of the region. -/
theorem breakWord {next : Scan → Scan} (h : Reads t text s lines current)
    (hMode : s.mode = .word buffer) (hCut : buffer ≠ [] → ¬ t.IsWord (buffer.reverse ++ [c]))
    (hNext : ∀ {s : Scan} {current : List Stretch}, Reads t text s lines current →
      s.mode = .word [] → ReadsOn t (text ++ [c]) (next (s.push c)) lines current) :
    ReadsOn t (text ++ [c]) (t.breakWord buffer c next (s.push c)) lines current := by
  by_cases hNonempty : buffer = []
  · subst hNonempty
    exact hNext h hMode
  · have hIsEmpty : buffer.isEmpty = false := by simpa using hNonempty
    cases hRule : t.rule? (String.ofList buffer.reverse) with
    | none =>
      simp only [Tokenizer.breakWord, hIsEmpty, hRule, Bool.false_eq_true, if_false]
      exact (hNext (h.endWord hMode hNonempty hRule) rfl).of_append
        (List.forall_mem_singleton.mpr ⟨rfl, trivial⟩)
    | some rule =>
      simp only [Tokenizer.breakWord, hIsEmpty, hRule, Bool.false_eq_true, if_false]
      refine (h.openWord hMode hNonempty hRule).collect rfl (RegionRule.detached_singleton.mpr ?_)
      rw [(Tokenizer.rule?_eq_some_iff.mp hRule).1, String.toList_ofList]
      exact hCut hNonempty

/-- What was read goes on by any character. -/
theorem read (h : Reads t text s lines current) (hDetached : s.mode.Detached t) (c : Char) :
    ReadsOn t (text ++ [c]) (t.read s c) lines current := by
  unfold Tokenizer.read
  split
  · rename_i buffer hMode
    unfold Tokenizer.readOutside
    split
    · rename_i hClass
      have hAlone := Tokenizer.classify_eq_single_iff.mp hClass
      exact h.breakWord hMode (fun _ => hAlone.not_isWord_snoc _) fun hReads hStart =>
        hReads.takeAlone hStart hAlone
    · rename_i group hClass
      have hGroup := Tokenizer.classify_eq_grouped_iff.mp hClass
      split
      · rename_i hStarts
        refine h.breakWord hMode (fun hNonempty => ?_) fun hReads hStart => ?_
        · obtain ⟨last, buffer, rfl⟩ := List.exists_cons_of_ne_nil hNonempty
          rw [List.reverse_cons]
          exact hGroup.not_isWord_snoc (by simpa [Tokenizer.startsWord] using hStarts) _
        · exact (hReads.takeWord hStart (Tokenizer.isWord_singleton_grouped hGroup)).readsOn trivial
      · rename_i hStarts
        refine (h.takeWord hMode ?_).readsOn trivial
        cases buffer with
        | nil => exact Tokenizer.isWord_singleton_grouped hGroup
        | cons last buffer =>
          have hLast : t.group? last = some group := by
            simpa [Tokenizer.startsWord] using hStarts
          have hWord := h.isWord hMode (by simp)
          simp only [List.reverse_cons] at hWord ⊢
          exact hWord.snoc_grouped hLast hGroup
    · rename_i hClass
      have hGap := Tokenizer.classify_eq_separator_iff.mp hClass
      exact h.breakWord hMode (fun _ => hGap.not_isWord_snoc _) fun hReads hStart =>
        ⟨_, hReads.takeGap hStart hGap, Scan.Mode.detached_of_eq_word hStart,
          List.forall_mem_singleton.mpr ⟨rfl, trivial⟩⟩
    · rename_i hClass
      have hOrdinary := Tokenizer.classify_eq_ordinary_iff.mp hClass
      refine (h.takeWord hMode ?_).readsOn trivial
      by_cases hNonempty : buffer = []
      · subst hNonempty
        exact Tokenizer.isWord_singleton_ordinary hOrdinary
      · rw [List.reverse_cons]
        exact (h.isWord hMode hNonempty).snoc_ordinary hOrdinary
  · rename_i rule content hMode
    rw [hMode] at hDetached
    exact h.collect hMode (hDetached c)

end Reads

end Lineation
