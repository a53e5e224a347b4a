import Lineation.Proofs.Tokenizer.Layout
import Lineation.Proofs.Tokenizer.Words

/-!
# Texts without regions

Where no rule opens a region, a scan is always outside of one, so each newline ends a line and what
is being built is the last word of the line. `ReadsLine` says that for the line that is being read
and `ReadsLines` for the lines before it; `tokenize_eq_linewiseRecords` is what follows for the
records of a text.

The scanner compares the group of a character with that of the last character of the word, whatever
the class of that one is. As it is a character of a word, it is not alone, and it is of the first
group that has it (`startsWord_cons`).
-/

namespace Lineation

namespace Tokenizer

variable {t : Tokenizer}

theorem rule?_of_regions_eq_nil (h : t.regions = []) (text : String) : t.rule? text = none := by
  rw [rule?, h]
  rfl

/-- The end of a word that opens nothing. -/
def endWord (t : Tokenizer) (buffer : List Char) (s : Scan) : Scan :=
  if buffer.isEmpty then s else t.emit (String.ofList buffer.reverse) (s.building [])

theorem breakWord_eq (h : t.regions = []) (buffer : List Char) (c : Char) (next : Scan → Scan)
    (s : Scan) : t.breakWord buffer c next s = next (t.endWord buffer s) := by
  unfold breakWord endWord
  dsimp only
  rw [rule?_of_regions_eq_nil h]
  split <;> rfl

theorem single_eq (h : t.regions = []) (c : Char) (s : Scan) :
    t.single c s = t.emit (String.singleton c) s := by
  unfold single
  dsimp only
  rw [rule?_of_regions_eq_nil h]

theorem settle_eq (h : t.regions = []) {s : Scan} {buffer : List Char}
    (hMode : s.mode = .word buffer) :
    t.settle s = t.endWord buffer s := by
  unfold settle endWord
  rw [hMode]
  cases buffer with
  | nil => rfl
  | cons c buffer =>
    dsimp only
    rw [rule?_of_regions_eq_nil h]
    rfl

/-- Whether a member of a group starts a word is told by whether the character before it is one. -/
theorem startsWord_cons {last c : Char} {group : Nat} {buffer : List Char}
    (hLast : t.isWordChar last = true) (hc : t.InGroup group c) :
    t.startsWord group (last :: buffer) = t.cutsAfter last c := by
  have hGroup : t.group? last = some group ↔ t.InGroup group last := by
    rw [InGroup, ← group?_eq_some_iff, iff_and_self]
    exact fun _ => not_isAlone_of_isWordChar hLast
  rw [Bool.eq_iff_iff, hc.cutsAfter_iff, ← hGroup]
  exact bne_iff_ne

end Tokenizer

/-- A scan is outside of regions and has read these lines and these characters of the next one. The
last word is being built if the last character is of a word, and the other words are tokens. -/
structure ReadsLines (t : Tokenizer) (lines : List (List Char)) (line : List Char) (s : Scan)
    (buffer : List Char) (words : List (List Char)) : Prop where
  mode_eq : s.mode = .word buffer
  source_eq : s.source.reverse = line
  tokens_eq : s.tokens.reverse = words.map (t.token ∘ String.ofList)
  words_eq : t.wordsOf line = words ++ Segment.optional buffer.reverse
  head?_eq : buffer.head? = line.getLast?.filter t.isWordChar
  line_eq : s.line = lines.length + 1
  records_eq : s.records.reverse = lines.mapIdx fun i line => t.linewiseRecord (i + 1) line
  ended : ∀ l ∈ lines, ∃ front, l = front ++ ['\n'] ∧ '\n' ∉ front

namespace ReadsLines

variable {t : Tokenizer} {lines : List (List Char)} {line buffer : List Char} {s : Scan}
  {words : List (List Char)} {c : Char}

theorem start (t : Tokenizer) : ReadsLines t [] [] {} [] [] :=
  ⟨rfl, rfl, rfl, rfl, rfl, rfl, rfl, by simp⟩

theorem words_eq_of_buffer_eq_nil (h : ReadsLines t lines line s [] words) :
    t.wordsOf line = words := by
  simpa [Segment.optional] using h.words_eq

/-- The last word ends, if one is being built, and no character is taken. -/
theorem endWord (h : ReadsLines t lines line s buffer words) :
    (t.endWord buffer s).mode = .word [] ∧ (t.endWord buffer s).source = s.source ∧
      (t.endWord buffer s).tokens.reverse = (t.wordsOf line).map (t.token ∘ String.ofList) ∧
      (t.endWord buffer s).line = s.line ∧ (t.endWord buffer s).records = s.records := by
  have hTokens := h.tokens_eq
  have hWords := h.words_eq
  unfold Tokenizer.endWord
  cases buffer with
  | nil =>
    rw [h.words_eq_of_buffer_eq_nil]
    exact ⟨h.mode_eq, rfl, hTokens, rfl, rfl⟩
  | cons last buffer =>
    refine ⟨rfl, rfl, ?_, rfl, rfl⟩
    simp [Tokenizer.emit, Scan.building, hTokens, hWords, Segment.optional]

theorem push_endWord (t : Tokenizer) (buffer : List Char) (s : Scan) (c : Char) :
    t.endWord buffer (s.push c) = (t.endWord buffer s).push c := by
  unfold Tokenizer.endWord
  split <;> rfl

/-- The last word ends, and a character follows that is a token, a separator or the start of a
word. -/
theorem takeAfterEnd (h : ReadsLines t lines line s buffer words) {s' : Scan}
    {next : List Char} {more : List (List Char)} (hMode : s'.mode = .word next)
    (hSource : s'.source = c :: (t.endWord buffer s).source)
    (hTokens : s'.tokens.reverse = (t.endWord buffer s).tokens.reverse ++
      more.map (t.token ∘ String.ofList))
    (hFrame : s'.line = (t.endWord buffer s).line ∧ s'.records = (t.endWord buffer s).records)
    (hWords : t.wordsOf (line ++ [c]) = t.wordsOf line ++ more ++ Segment.optional next.reverse)
    (hHead : next.head? = (some c).filter t.isWordChar) :
    ReadsLines t lines (line ++ [c]) s' next (t.wordsOf line ++ more) := by
  obtain ⟨-, hEndSource, hEndTokens, hEndLine, hEndRecords⟩ := h.endWord
  refine ⟨hMode, ?_, ?_, hWords, ?_, ?_, ?_, h.ended⟩
  · rw [hSource, hEndSource, List.reverse_cons, h.source_eq]
  · rw [hTokens, hEndTokens, List.map_append]
  · rw [hHead, List.getLast?_concat]
  · rw [hFrame.1, hEndLine, h.line_eq]
  · rw [hFrame.2, hEndRecords, h.records_eq]

theorem takeSingle (h : ReadsLines t lines line s buffer words) (hc : t.IsAlone c) :
    ReadsLines t lines (line ++ [c]) (t.emit (String.singleton c) (t.endWord buffer (s.push c))) []
      (t.wordsOf line ++ [[c]]) := by
  rw [push_endWord]
  apply h.takeAfterEnd
  · exact h.endWord.1
  · rfl
  · rw [Tokenizer.emit, List.reverse_cons]
    rfl
  · exact ⟨rfl, rfl⟩
  · simp [Tokenizer.wordsOf_concat_alone hc, Segment.optional]
  · simp [Option.filter, hc.isWordChar]

theorem takeGap (h : ReadsLines t lines line s buffer words) (hc : t.IsGap c) :
    ReadsLines t lines (line ++ [c]) (t.endWord buffer (s.push c)) [] (t.wordsOf line ++ []) := by
  rw [push_endWord]
  apply h.takeAfterEnd
  · exact h.endWord.1
  · rfl
  · simp [Scan.push]
  · exact ⟨rfl, rfl⟩
  · simp [Tokenizer.wordsOf_concat_gap hc, Segment.optional]
  · simp [Option.filter, hc.isWordChar]

/-- A word starts, after another one or after none. -/
theorem takeStart (h : ReadsLines t lines line s buffer words) (hc : t.isWordChar c = true)
    (hCut : ∀ last ∈ buffer.head?, t.cutsAfter last c = true) :
    ReadsLines t lines (line ++ [c]) ((t.endWord buffer (s.push c)).building [c]) [c]
      (t.wordsOf line ++ []) := by
  have hWords : t.wordsOf (line ++ [c]) = t.wordsOf line ++ [[c]] := by
    cases buffer with
    | nil => exact Tokenizer.wordsOf_concat_start h.head?_eq.symm hc
    | cons last buffer => exact Tokenizer.wordsOf_concat_cut h.head?_eq.symm hc (hCut last rfl)
  rw [push_endWord]
  apply h.takeAfterEnd
  · rfl
  · rfl
  · simp [Scan.push, Scan.building]
  · exact ⟨rfl, rfl⟩
  · simp [hWords, Segment.optional]
  · simp [Option.filter, hc]

theorem takeJoined {last : Char} (h : ReadsLines t lines line s (last :: buffer) words)
    (hc : t.isWordChar c = true) (hJoined : t.cutsAfter last c = false) :
    ReadsLines t lines (line ++ [c]) ((s.push c).building (c :: last :: buffer))
      (c :: last :: buffer) words := by
  have hWords : t.wordsOf line = words ++ [(last :: buffer).reverse] := by
    simpa [Segment.optional] using h.words_eq
  refine ⟨rfl, ?_, h.tokens_eq, ?_, ?_, h.line_eq, h.records_eq, h.ended⟩
  · rw [Scan.building, Scan.push, List.reverse_cons, h.source_eq]
  · rw [Tokenizer.wordsOf_concat_joined h.head?_eq.symm hc hJoined hWords]
    simp [Segment.optional]
  · simp [Option.filter, hc]

theorem isWordChar_head (h : ReadsLines t lines line s buffer words) :
    ∀ last ∈ buffer.head?, t.isWordChar last = true := by
  intro last hLast
  rw [h.head?_eq] at hLast
  exact (Option.filter_eq_some_iff.mp hLast).2

theorem read (hRegions : t.regions = []) (h : ReadsLines t lines line s buffer words) (c : Char) :
    ∃ buffer words, ReadsLines t lines (line ++ [c]) (t.read s c) buffer words := by
  unfold Tokenizer.read
  rw [h.mode_eq]
  dsimp only
  unfold Tokenizer.readOutside
  split
  · rename_i hClass
    rw [Tokenizer.breakWord_eq hRegions, Tokenizer.single_eq hRegions]
    exact ⟨_, _, h.takeSingle (Tokenizer.classify_eq_single_iff.mp hClass)⟩
  · rename_i group hClass
    have hGroup : t.InGroup group c := Tokenizer.classify_eq_grouped_iff.mp hClass
    rw [Tokenizer.breakWord_eq hRegions]
    cases buffer with
    | nil => exact ⟨_, _, h.takeStart hGroup.isWordChar (by simp)⟩
    | cons last buffer =>
      have hLast := h.isWordChar_head last rfl
      rw [Tokenizer.startsWord_cons hLast hGroup]
      cases hCut : t.cutsAfter last c with
      | true => exact ⟨_, _, h.takeStart hGroup.isWordChar (by simpa using hCut)⟩
      | false => exact ⟨_, _, h.takeJoined hGroup.isWordChar hCut⟩
  · rename_i hClass
    rw [Tokenizer.breakWord_eq hRegions]
    exact ⟨_, _, h.takeGap (Tokenizer.classify_eq_separator_iff.mp hClass)⟩
  · rename_i hClass
    have hOrdinary : t.IsOrdinary c := Tokenizer.classify_eq_ordinary_iff.mp hClass
    cases buffer with
    | nil => exact ⟨_, _, h.takeStart hOrdinary.isWordChar (by simp)⟩
    | cons last buffer =>
      exact ⟨_, _, h.takeJoined hOrdinary.isWordChar (hOrdinary.cutsAfter last)⟩

theorem reverse_records_closeLine (hSource : s.source.reverse = line)
    (hTokens : s.tokens.reverse = (t.wordsOf line).map (t.token ∘ String.ofList))
    (hNumber : s.line = lines.length + 1)
    (hRecords : s.records.reverse = lines.mapIdx fun i line => t.linewiseRecord (i + 1) line)
    (hNonempty : s.tokens ≠ []) :
    s.closeLine.records.reverse =
      (lines ++ [line]).mapIdx fun i line => t.linewiseRecord (i + 1) line := by
  rw [Scan.closeLine_of_tokens_ne_nil hNonempty]
  simp only [List.reverse_cons, hRecords, hSource, hTokens, hNumber, List.mapIdx_concat]
  rfl

theorem tokens_ne_nil_iff
    (hTokens : s.tokens.reverse = (t.wordsOf line).map (t.token ∘ String.ofList)) :
    s.tokens ≠ [] ↔ t.wordsOf line ≠ [] := by
  rw [← List.reverse_ne_nil_iff, hTokens, Ne, List.map_eq_nil_iff]

/-- A line that ends with its only newline becomes a record, and the next line starts. -/
theorem closeLine (h : ReadsLines t lines line s [] words)
    (hEnded : ∃ front, line = front ++ ['\n'] ∧ '\n' ∉ front) (hWords : words ≠ []) :
    ReadsLines t (lines ++ [line]) [] s.closeLine [] [] := by
  have hTokens := h.tokens_eq
  rw [← h.words_eq_of_buffer_eq_nil] at hTokens
  have hNonempty : s.tokens ≠ [] := by
    rw [tokens_ne_nil_iff hTokens, h.words_eq_of_buffer_eq_nil]
    exact hWords
  have hRecords := reverse_records_closeLine h.source_eq hTokens h.line_eq h.records_eq hNonempty
  have hClose := Scan.closeLine_of_tokens_ne_nil hNonempty
  refine ⟨?_, ?_, ?_, rfl, rfl, ?_, hRecords, ?_⟩
  · rw [hClose]
    exact h.mode_eq
  · rw [hClose]
    rfl
  · rw [hClose]
    rfl
  · rw [hClose, List.length_append]
    exact congrArg (· + 1) h.line_eq
  · intro l hMem
    rcases List.mem_append.mp hMem with hMem | hMem
    · exact h.ended l hMem
    · rw [List.mem_singleton.mp hMem]
      exact hEnded

theorem newline (hRegions : t.regions = []) (h : ReadsLines t lines line s buffer words) :
    ReadsLines t lines (line ++ ['\n']) (t.read s '\n') [] (t.wordsOf line ++ [['\n']]) := by
  have hAlone : t.IsAlone '\n' := Or.inl rfl
  rw [Tokenizer.read, h.mode_eq]
  dsimp only
  rw [Tokenizer.readOutside, Tokenizer.classify_eq_single_iff.mpr hAlone]
  dsimp only
  rw [Tokenizer.breakWord_eq hRegions, Tokenizer.single_eq hRegions]
  exact h.takeSingle hAlone

/-- A character is taken up, and a newline ends the line. -/
theorem step (hRegions : t.regions = []) (h : ReadsLines t lines line s buffer words)
    (hLine : '\n' ∉ line) (c : Char) :
    ∃ lines' line' buffer words, ReadsLines t lines' line' (t.step s c) buffer words ∧
      '\n' ∉ line' ∧ lines'.flatten ++ line' = lines.flatten ++ line ++ [c] := by
  unfold Tokenizer.step
  dsimp only
  by_cases hc : c = '\n'
  · subst hc
    have hRead := h.newline hRegions
    have hClosed := hRead.closeLine ⟨line, rfl, hLine⟩ (by simp)
    rw [hRead.mode_eq]
    dsimp only
    rw [if_pos rfl]
    exact ⟨_, _, _, _, hClosed, by simp, by simp⟩
  · obtain ⟨buffer', words', hRead⟩ := h.read hRegions c
    rw [hRead.mode_eq]
    dsimp only
    rw [if_neg hc]
    exact ⟨lines, line ++ [c], buffer', words', hRead, by simp [hLine, Ne.symm hc], by simp⟩

theorem foldl (hRegions : t.regions = []) (h : ReadsLines t lines line s buffer words)
    (hLine : '\n' ∉ line) (text : List Char) :
    ∃ lines' line' buffer words, ReadsLines t lines' line' (text.foldl t.step s) buffer words ∧
      '\n' ∉ line' ∧ lines'.flatten ++ line' = lines.flatten ++ line ++ text := by
  induction text generalizing lines line s buffer words with
  | nil => exact ⟨lines, line, buffer, words, h, hLine, by simp⟩
  | cons c text ih =>
    obtain ⟨lines', line', buffer', words', hStep, hLine', hText⟩ := h.step hRegions hLine c
    obtain ⟨lines'', line'', buffer'', words'', hRest, hLine'', hText'⟩ := ih hStep hLine'
    exact ⟨lines'', line'', buffer'', words'', hRest, hLine'', by simp [hText', hText]⟩

/-- The end of the text ends the last word and, if it has tokens, the last line. -/
theorem finish (hRegions : t.regions = []) (h : ReadsLines t lines line s buffer words)
    (hLine : '\n' ∉ line) :
    (t.finish s).records.reverse = t.linewiseRecords (lines.flatten ++ line) := by
  obtain ⟨-, hSource, hTokens, hNumber, hRecords⟩ := h.endWord
  have hRead : (t.endWord buffer s).records.reverse =
      lines.mapIdx fun i line => t.linewiseRecord (i + 1) line := by
    rw [hRecords, h.records_eq]
  rw [t.finish_eq, Tokenizer.settle_eq hRegions h.mode_eq, Tokenizer.linewiseRecords,
    physicalLines_flatten_append h.ended hLine, hSource]
  by_cases hNil : line = []
  · have hEmpty : s.source = [] := by rw [← List.reverse_eq_nil_iff, h.source_eq, hNil]
    rw [hEmpty, List.isEmpty_nil, if_pos rfl, if_pos hNil, List.append_nil,
      Tokenizer.recordedLines_of_ended h.ended, hRead]
  · have hNonempty : s.source.isEmpty = false := by
      rw [List.isEmpty_eq_false_iff, ← List.reverse_ne_nil_iff, h.source_eq]
      exact hNil
    rw [hNonempty, if_neg Bool.false_ne_true, if_neg hNil, Tokenizer.recordedLines_concat hLine]
    by_cases hWords : t.wordsOf line = []
    · have hNoTokens : (t.endWord buffer s).tokens = [] := by
        by_contra hSome
        exact (tokens_ne_nil_iff hTokens).mp hSome hWords
      rw [if_pos hWords, Scan.closeLine_of_tokens_eq_nil hNoTokens]
      exact hRead
    · rw [if_neg hWords]
      exact reverse_records_closeLine (by rw [hSource, h.source_eq]) hTokens
        (hNumber.trans h.line_eq) hRead ((tokens_ne_nil_iff hTokens).mpr hWords)

end ReadsLines

namespace Tokenizer

/-- Without rules the records of a text are those of its lines, and the tokens of a line are its
words and its characters that are alone. -/
theorem tokenize_eq_linewiseRecords (t : Tokenizer) (hRegions : t.regions = []) (text : String) :
    (t.tokenize text).records = t.linewiseRecords text.toList := by
  obtain ⟨lines, line, buffer, words, hReads, hLine, hText⟩ :=
    (ReadsLines.start t).foldl hRegions (by simp) text.toList
  have hRecords := hReads.finish hRegions hLine
  rw [hText] at hRecords
  exact hRecords

/-- Two groups that share a character, a separator and a character that is alone which are in a group
as well, and a last line of separators only. -/
theorem tokenize_eq_linewiseRecords_of_overlapping_classes :
    let t : Tokenizer :=
      { groups := [['+', '-', ';'], ['-', '*']], individual := [';'], separators := [' ', '+'] }
    t.regions = [] ∧
      (t.tokenize "a+-*b+;*;\nb \n  ").records = t.linewiseRecords "a+-*b+;*;\nb \n  ".toList ∧
      (t.linewiseRecords "a+-*b+;*;\nb \n  ".toList).map LineRecord.texts =
        [["a", "+-", "*b", "+", ";", "*", ";", "\n"], ["b", "\n"]] := by
  intro t
  have hRegions : t.regions = [] := rfl
  exact ⟨hRegions, tokenize_eq_linewiseRecords t hRegions _, by decide⟩

end Tokenizer

end Lineation
