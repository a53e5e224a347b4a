import Mathlib.Data.List.SplitBy
import Lineation.Proofs.Text.Lines
import Lineation.Proofs.Tokenizer.Classes

/-!
# Lines and words, said without a scanner

Where no rule opens a region, a text is cut by looking at two neighbouring characters at a time: a
line ends after a newline, a run of characters of words goes as far as there are such characters,
and within a run a new word starts before a member of a group whose neighbour is not a member of
that group.

* `physicalLines`: the text cut after every newline.
* `Tokenizer.wordsOf`: the texts of the tokens of a line.
* `Tokenizer.linewiseRecords`: the records of a text.
* `Tokenizer.wordsOf_concat_alone` and those after it: how the words of a line go on when the line
  goes on by a character.
-/

namespace Lineation

/-! ## Cutting a list between neighbours -/

section SplitBy

variable {α : Type} {r : α → α → Bool} {l front : List α} {a b : α} {parts : List (List α)}

theorem splitBy_singleton (r : α → α → Bool) (a : α) : [a].splitBy r = [[a]] := rfl

theorem splitBy_concat_of_cut (h : ∀ b ∈ l.getLast?, r b a = false) :
    (l ++ [a]).splitBy r = l.splitBy r ++ [[a]] := by
  rw [List.splitBy_append, splitBy_singleton]
  intro b hb c hc
  rw [← Option.some.inj hc]
  exact h b hb

theorem splitBy_concat_of_joined (hParts : l.splitBy r = parts ++ [front])
    (hLast : l.getLast? = some b) (h : r b a = true) :
    (l ++ [a]).splitBy r = parts ++ [front ++ [a]] := by
  obtain ⟨hFlatten, hNil, hInner, hOuter⟩ := List.splitBy_eq_iff.mp hParts
  have hFront : front ≠ [] := fun hEmpty => hNil (by simp [hEmpty])
  have hFrontLast : front.getLast? = some b := by
    rw [hFlatten, List.flatten_append, List.flatten_singleton,
      List.getLast?_append_of_ne_nil _ hFront] at hLast
    exact hLast
  -- only the last part has changed, and its first element has not
  rw [List.splitBy_eq_iff]
  refine ⟨by simp [hFlatten], ?_, ?_, ?_⟩
  · simpa using fun hMem => hNil (List.mem_append_left _ hMem)
  · intro part hMem
    rcases List.mem_append.mp hMem with hMem | hMem
    · exact hInner part (List.mem_append_left _ hMem)
    · rw [List.mem_singleton.mp hMem]
      refine (hInner front (by simp)).append (List.isChain_singleton _) ?_
      intro c hc d hd
      rw [hFrontLast] at hc
      rw [← Option.some.inj hc, ← Option.some.inj hd]
      exact h
  · rw [List.isChain_append] at hOuter ⊢
    refine ⟨hOuter.1, List.isChain_singleton _, ?_⟩
    intro part hPart last hEnd
    obtain ⟨hPartNe, _, hCut⟩ := hOuter.2.2 part hPart front rfl
    rw [← Option.some.inj hEnd]
    exact ⟨hPartNe, by simp, by rwa [List.head_append_of_ne_nil hFront]⟩

end SplitBy

/-! ## Lines -/

/-- A text cut after every newline. -/
def physicalLines (text : List Char) : List (List Char) :=
  text.splitBy fun c _ => c != '\n'

theorem physicalLines_of_newline_not_mem_dropLast {line : List Char} (h : '\n' ∉ line.dropLast) :
    physicalLines line = if line = [] then [] else [line] := by
  split
  · rename_i hNil
    rw [hNil]
    rfl
  · rename_i hNonempty
    refine List.splitBy_of_isChain hNonempty (List.isChain_iff_getElem.mpr fun i hi => ?_)
    have hMem : (line)[i] ∈ line.dropLast := by
      rw [List.mem_iff_getElem]
      exact ⟨i, by rw [List.length_dropLast]; omega, List.getElem_dropLast _⟩
    rw [bne_iff_ne]
    exact fun hEq => h (hEq ▸ hMem)

theorem physicalLines_flatten_append {lines : List (List Char)} {line : List Char}
    (hLines : ∀ l ∈ lines, ∃ front, l = front ++ ['\n'] ∧ '\n' ∉ front) (hLine : '\n' ∉ line) :
    physicalLines (lines.flatten ++ line) = lines ++ if line = [] then [] else [line] := by
  induction lines with
  | nil =>
    exact physicalLines_of_newline_not_mem_dropLast fun hMem =>
      hLine ((List.dropLast_sublist line).subset hMem)
  | cons l lines ih =>
    obtain ⟨front, rfl, hFront⟩ := hLines l List.mem_cons_self
    have hRest := ih fun l hMem => hLines l (List.mem_cons_of_mem _ hMem)
    have hFirst : physicalLines (front ++ ['\n']) = [front ++ ['\n']] := by
      rw [physicalLines_of_newline_not_mem_dropLast (by simpa using hFront), if_neg (by simp)]
    have hCut : physicalLines (front ++ ['\n'] ++ (lines.flatten ++ line)) =
        physicalLines (front ++ ['\n']) ++ physicalLines (lines.flatten ++ line) := by
      refine List.splitBy_append fun c hc d _ => ?_
      rw [List.getLast?_concat, Option.mem_some_iff] at hc
      rw [← hc]
      rfl
    rw [List.flatten_cons, List.append_assoc, hCut, hFirst, hRest]
    rfl

/-- The last character of a text is on a line that the newlines before it have ended. -/
theorem length_physicalLines_concat (text : List Char) (c : Char) :
    (physicalLines (text ++ [c])).length = text.count '\n' + 1 := by
  induction text using List.reverseRecOn generalizing c with
  | nil => rfl
  | append_singleton text last ih =>
    by_cases hLast : last = '\n'
    · have hCut : physicalLines (text ++ [last] ++ [c]) =
          physicalLines (text ++ [last]) ++ [[c]] :=
        splitBy_concat_of_cut (by simp [hLast])
      rw [hCut, List.length_append, ih, hLast, List.count_append]
      rfl
    · have hNonempty : physicalLines (text ++ [last]) ≠ [] := by
        rw [← List.length_pos_iff, ih]
        exact Nat.succ_pos _
      obtain ⟨parts, front, hParts⟩ := List.eq_nil_or_concat _ |>.resolve_left hNonempty
      rw [List.concat_eq_append] at hParts
      have hJoined : physicalLines (text ++ [last] ++ [c]) = parts ++ [front ++ [c]] :=
        splitBy_concat_of_joined hParts List.getLast?_concat (by simpa using hLast)
      have hLength := congrArg List.length hParts
      rw [ih] at hLength
      rw [hJoined, List.count_append, List.count_singleton, if_neg (by simpa using hLast)]
      simpa using hLength.symm

theorem length_physicalLines (text : String) :
    (physicalLines text.toList).length = Text.lineCount text := by
  rcases List.eq_nil_or_concat text.toList with hNil | ⟨front, c, hText⟩
  · rw [Text.lineCount_eq, hNil]
    rfl
  · rw [Text.lineCount_eq_dropLast (by simp [hText]), hText, List.concat_eq_append,
      length_physicalLines_concat, List.dropLast_concat]

/-- Only the last character of a line can be a newline. -/
theorem newline_not_mem_dropLast_of_mem_physicalLines {text line : List Char}
    (h : line ∈ physicalLines text) : '\n' ∉ line.dropLast := by
  have hChain := List.isChain_iff_getElem.mp (List.isChain_of_mem_splitBy h)
  intro hMem
  obtain ⟨i, hi, hNewline⟩ := List.mem_iff_getElem.mp hMem
  rw [List.length_dropLast] at hi
  rw [List.getElem_dropLast] at hNewline
  have hNe := hChain i (by omega)
  simp [hNewline] at hNe

namespace Tokenizer

variable {t : Tokenizer} {line front word : List Char} {words : List (List Char)} {c d : Char}

/-! ## Words -/

/-- Whether a character is of a group or ordinary. -/
def isWordChar (t : Tokenizer) (c : Char) : Bool :=
  ((List.range t.groups.length).any fun group => t.InGroup group c) || t.IsOrdinary c

/-- Whether a character is cut off from the one before it: it is of a group that the other is not
of. -/
def cutsAfter (t : Tokenizer) (before c : Char) : Bool :=
  (List.range t.groups.length).any fun group =>
    t.InGroup group c ∧ ¬ t.InGroup group before

/-- The maximal runs of characters of words, and all other characters alone. -/
def runs (t : Tokenizer) (line : List Char) : List (List Char) :=
  line.splitBy fun before c => t.isWordChar before && t.isWordChar c

/-- The words of a run. A separator gives none. -/
def wordsOfRun (t : Tokenizer) (run : List Char) : List (List Char) :=
  if run.all fun c => t.IsGap c then []
  else run.splitBy fun before c => !t.cutsAfter before c

/-- The texts of the tokens of a line. -/
def wordsOf (t : Tokenizer) (line : List Char) : List (List Char) :=
  (t.runs line).flatMap t.wordsOfRun

/-- The record of a line. -/
def linewiseRecord (t : Tokenizer) (number : Nat) (line : List Char) : LineRecord :=
  ⟨number, String.ofList line, ((t.wordsOf line).map (t.token ∘ String.ofList)).toArray⟩

/-- The lines that have a record: all but a last one without newline and without tokens. -/
def recordedLines (t : Tokenizer) (lines : List (List Char)) : List (List Char) :=
  match lines.getLast? with
  | some last => if '\n' ∉ last ∧ t.wordsOf last = [] then lines.dropLast else lines
  | none => []

/-- The records of a text, line by line. -/
def linewiseRecords (t : Tokenizer) (text : List Char) : List LineRecord :=
  (t.recordedLines (physicalLines text)).mapIdx fun i line => t.linewiseRecord (i + 1) line

theorem recordedLines_of_ended {lines : List (List Char)}
    (h : ∀ l ∈ lines, ∃ front, l = front ++ ['\n'] ∧ '\n' ∉ front) :
    t.recordedLines lines = lines := by
  unfold recordedLines
  split
  · rename_i last hLast
    obtain ⟨front, hEnd, -⟩ := h last (List.mem_of_getLast? hLast)
    rw [if_neg fun hDropped => hDropped.1 (by simp [hEnd])]
  · rename_i hNone
    exact (List.getLast?_eq_none_iff.mp hNone).symm

theorem recordedLines_concat {lines : List (List Char)} (h : '\n' ∉ line) :
    t.recordedLines (lines ++ [line]) =
      if t.wordsOf line = [] then lines else lines ++ [line] := by
  simp [recordedLines, h]

/-! ## Characters of words -/

theorem isWordChar_iff :
    t.isWordChar c = true ↔ (∃ group, t.InGroup group c) ∨ t.IsOrdinary c := by
  rw [isWordChar, Bool.or_eq_true, List.any_eq_true, decide_eq_true_eq]
  refine or_congr_left ⟨?_, ?_⟩
  · rintro ⟨group, -, hGroup⟩
    exact ⟨group, of_decide_eq_true hGroup⟩
  · rintro ⟨group, hGroup⟩
    exact ⟨group, List.mem_range.mpr hGroup.lt_length, decide_eq_true hGroup⟩

theorem InGroup.isWordChar {group : Nat} (hc : t.InGroup group c) : t.isWordChar c = true :=
  isWordChar_iff.mpr (Or.inl ⟨group, hc⟩)

theorem IsOrdinary.isWordChar (hc : t.IsOrdinary c) : t.isWordChar c = true :=
  isWordChar_iff.mpr (Or.inr hc)

theorem not_isAlone_of_isWordChar (hc : t.isWordChar c = true) : ¬ t.IsAlone c := by
  rcases isWordChar_iff.mp hc with ⟨group, hGroup⟩ | hOrdinary
  · exact hGroup.1
  · exact hOrdinary.1

theorem not_isGap_of_isWordChar (hc : t.isWordChar c = true) : ¬ t.IsGap c := by
  intro hGap
  rcases isWordChar_iff.mp hc with ⟨group, -, hLength, hMem, -⟩ | hOrdinary
  · exact hGap.2.1 _ (List.getElem_mem hLength) hMem
  · exact hOrdinary.2.2 hGap.2.2

theorem IsAlone.isWordChar (hc : t.IsAlone c) : t.isWordChar c = false :=
  Bool.eq_false_iff.mpr fun hWord => not_isAlone_of_isWordChar hWord hc

theorem IsGap.isWordChar (hc : t.IsGap c) : t.isWordChar c = false :=
  Bool.eq_false_iff.mpr fun hWord => not_isGap_of_isWordChar hWord hc

theorem cutsAfter_iff {before : Char} :
    t.cutsAfter before c = true ↔ ∃ group, t.InGroup group c ∧ ¬ t.InGroup group before := by
  rw [cutsAfter, List.any_eq_true]
  constructor
  · rintro ⟨group, -, hGroup⟩
    exact ⟨group, of_decide_eq_true hGroup⟩
  · rintro ⟨group, hGroup⟩
    exact ⟨group, List.mem_range.mpr hGroup.1.lt_length, decide_eq_true hGroup⟩

theorem InGroup.cutsAfter_iff {group : Nat} (hc : t.InGroup group c) {before : Char} :
    t.cutsAfter before c = true ↔ ¬ t.InGroup group before := by
  rw [Tokenizer.cutsAfter_iff]
  constructor
  · rintro ⟨other, hOther, hBefore⟩
    rwa [hc.unique hOther]
  · exact fun hBefore => ⟨group, hc, hBefore⟩

theorem IsOrdinary.cutsAfter (hc : t.IsOrdinary c) (before : Char) :
    t.cutsAfter before c = false := by
  rw [Bool.eq_false_iff, Ne, cutsAfter_iff]
  rintro ⟨group, ⟨-, hLength, hMem, -⟩, -⟩
  exact hc.2.1 _ (List.getElem_mem hLength) hMem

/-! ## One more character -/

theorem wordsOf_concat_of_cut
    (h : ∀ b ∈ line.getLast?, (t.isWordChar b && t.isWordChar c) = false) :
    t.wordsOf (line ++ [c]) = t.wordsOf line ++ t.wordsOfRun [c] := by
  rw [wordsOf, runs, splitBy_concat_of_cut h, List.flatMap_append, List.flatMap_singleton]
  rfl

theorem wordsOf_concat_alone (hc : t.IsAlone c) :
    t.wordsOf (line ++ [c]) = t.wordsOf line ++ [[c]] := by
  have hGap : ¬ t.IsGap c := fun h => h.1 hc
  rw [wordsOf_concat_of_cut fun b _ => by simp [hc.isWordChar]]
  simp [wordsOfRun, hGap, splitBy_singleton]

theorem wordsOf_concat_gap (hc : t.IsGap c) : t.wordsOf (line ++ [c]) = t.wordsOf line := by
  rw [wordsOf_concat_of_cut fun b _ => by simp [hc.isWordChar]]
  simp [wordsOfRun, hc]

/-- A word starts where no character of a word stands before. -/
theorem wordsOf_concat_start (h : line.getLast?.filter t.isWordChar = none)
    (hc : t.isWordChar c = true) : t.wordsOf (line ++ [c]) = t.wordsOf line ++ [[c]] := by
  have hCut : ∀ b ∈ line.getLast?, (t.isWordChar b && t.isWordChar c) = false := by
    intro b hb
    rw [Option.filter_eq_none_iff] at h
    simp [h b hb]
  rw [wordsOf_concat_of_cut hCut]
  simp [wordsOfRun, not_isGap_of_isWordChar hc, splitBy_singleton]

/-- The last run of a line that ends in a word, and how the words go on with the run. -/
theorem exists_wordsOf_concat (h : line.getLast?.filter t.isWordChar = some d)
    (hc : t.isWordChar c = true) :
    ∃ before run, t.wordsOf line = before ++ (run.splitBy fun b c => !t.cutsAfter b c) ∧
      run.getLast? = some d ∧
      t.wordsOf (line ++ [c]) = before ++ ((run ++ [c]).splitBy fun b c => !t.cutsAfter b c) := by
  obtain ⟨hLast, hd⟩ := Option.filter_eq_some_iff.mp h
  have hNonempty : t.runs line ≠ [] := by
    rw [runs, List.splitBy_ne_nil]
    rintro rfl
    cases hLast
  obtain ⟨parts, run, hRuns⟩ := List.eq_nil_or_concat (t.runs line) |>.resolve_left hNonempty
  rw [List.concat_eq_append] at hRuns
  have hRunNe : run ≠ [] := List.ne_nil_of_mem_splitBy (hRuns ▸ List.mem_concat_self)
  have hRunLast : run.getLast? = some d := by
    have hFlatten : line = (parts ++ [run]).flatten := by
      rw [← hRuns, runs, List.flatten_splitBy]
    rw [hFlatten, List.flatten_append, List.flatten_singleton,
      List.getLast?_append_of_ne_nil _ hRunNe] at hLast
    exact hLast
  have hNext : t.runs (line ++ [c]) = parts ++ [run ++ [c]] :=
    splitBy_concat_of_joined hRuns hLast (by simp [hd, hc])
  have hWords : ∀ run : List Char, d ∈ run →
      t.wordsOfRun run = run.splitBy fun b c => !t.cutsAfter b c := by
    intro run hMem
    have hNotAll : (run.all fun c => t.IsGap c) ≠ true := by
      intro hAll
      exact not_isGap_of_isWordChar hd (of_decide_eq_true (List.all_eq_true.mp hAll d hMem))
    rw [wordsOfRun, if_neg hNotAll]
  have hMem : d ∈ run := List.mem_of_getLast? hRunLast
  refine ⟨parts.flatMap t.wordsOfRun, run, ?_, hRunLast, ?_⟩
  · rw [wordsOf, hRuns, List.flatMap_append, List.flatMap_singleton, hWords run hMem]
  · rw [wordsOf, hNext, List.flatMap_append, List.flatMap_singleton,
      hWords _ (List.mem_append_left _ hMem)]

theorem wordsOf_concat_cut (h : line.getLast?.filter t.isWordChar = some d)
    (hc : t.isWordChar c = true) (hCut : t.cutsAfter d c = true) :
    t.wordsOf (line ++ [c]) = t.wordsOf line ++ [[c]] := by
  obtain ⟨before, run, hWords, hLast, hNext⟩ := exists_wordsOf_concat h hc
  have hNotJoined : ∀ b ∈ run.getLast?, (!t.cutsAfter b c) = false := by
    intro b hb
    rw [hLast] at hb
    rw [← Option.some.inj hb, hCut]
    rfl
  rw [hNext, splitBy_concat_of_cut hNotJoined, hWords, List.append_assoc]

theorem wordsOf_concat_joined (h : line.getLast?.filter t.isWordChar = some d)
    (hc : t.isWordChar c = true) (hJoined : t.cutsAfter d c = false)
    (hWord : t.wordsOf line = words ++ [word]) :
    t.wordsOf (line ++ [c]) = words ++ [word ++ [c]] := by
  obtain ⟨before, run, hWords, hLast, hNext⟩ := exists_wordsOf_concat h hc
  have hNonempty : (run.splitBy fun b c => !t.cutsAfter b c) ≠ [] := by
    rw [List.splitBy_ne_nil]
    rintro rfl
    cases hLast
  obtain ⟨parts, last, hParts⟩ := List.eq_nil_or_concat _ |>.resolve_left hNonempty
  rw [List.concat_eq_append] at hParts
  rw [hParts, hWord, ← List.append_assoc] at hWords
  obtain ⟨hWordsEq, hLastEq⟩ := List.append_inj' hWords rfl
  rw [hNext, splitBy_concat_of_joined hParts hLast (by simp [hJoined]), ← List.append_assoc,
    ← hWordsEq, List.singleton_inj.mp hLastEq]

end Tokenizer

end Lineation
