import Mathlib.Data.List.DropRight
import Mathlib.Data.Nat.Find
import Lineation.Proofs.Tokenizer.Layout

/-!
# Regions take the shortest match

A region goes on to the first place at which what was taken and the closing text agree on their last
characters, as many as the shorter of the two has. It can be closed by a part of the closing text,
then, and by its first character alone. With an empty closing text it is closed by whatever
character comes first.

While no beginning of the characters ends the region, reading only collects them
(`foldl_step_of_running`). The shortest beginning that does is therefore taken to its last character
and no further, whatever follows it.

* `RegionRule.ends_iff`: what ends a region, as an agreement of last characters.
* `RegionRule.shortest_iff`: the shortest beginning that ends a region is one that has just ended.
* `RegionRule.Finished.not_isInfix_content`: what was taken before has no closing text in it.
* `Tokenizer.openRegion_takes_shortest`: what a region takes, and what it adds to the line.
-/

namespace Lineation

namespace RegionRule

variable {rule : RegionRule} {chars body start : List Char}

/-! ## The shortest match -/

/-- Two texts have the same last characters, as many as the shorter one has. -/
def AgreeAtEnd (xs ys : List Char) : Prop :=
  xs.rtake (min xs.length ys.length) = ys.rtake (min xs.length ys.length)

theorem agreeAtEnd_comm {xs ys : List Char} : AgreeAtEnd xs ys ↔ AgreeAtEnd ys xs := by
  unfold AgreeAtEnd
  rw [Nat.min_comm, eq_comm]

theorem agreeAtEnd_iff_of_length_le {xs ys : List Char} (h : xs.length ≤ ys.length) :
    AgreeAtEnd xs ys ↔ xs <:+ ys := by
  unfold AgreeAtEnd
  rw [Nat.min_eq_left h, List.suffix_iff_eq_drop, List.rtake, List.rtake, Nat.sub_self,
    List.drop_zero]

theorem agreeAtEnd_iff {xs ys : List Char} : AgreeAtEnd xs ys ↔ xs <:+ ys ∨ ys <:+ xs := by
  rcases Nat.le_total xs.length ys.length with h | h
  · rw [agreeAtEnd_iff_of_length_le h]
    constructor
    · exact Or.inl
    · rintro (hSuffix | hSuffix)
      · exact hSuffix
      · exact hSuffix.eq_of_length_le h ▸ List.suffix_refl _
  · rw [agreeAtEnd_comm, agreeAtEnd_iff_of_length_le h]
    constructor
    · exact Or.inr
    · rintro (hSuffix | hSuffix)
      · exact hSuffix.eq_of_length_le h ▸ List.suffix_refl _
      · exact hSuffix

theorem ends_iff : rule.Ends body ↔ body ≠ [] ∧ AgreeAtEnd body rule.closing.toList := by
  rw [Ends, agreeAtEnd_iff]

/-- The shortest beginning of some characters, not empty, that agrees with the closing text. -/
structure Shortest (rule : RegionRule) (chars body : List Char) : Prop where
  beginning : body <+: chars
  ne_nil : body ≠ []
  agrees : AgreeAtEnd body rule.closing.toList
  least : ∀ start, start <+: chars → start ≠ [] → AgreeAtEnd start rule.closing.toList →
    body.length ≤ start.length

theorem shortest_iff : rule.Shortest chars body ↔ body <+: chars ∧ rule.Finished body := by
  constructor
  · intro h
    refine ⟨h.beginning, ends_iff.mpr ⟨h.ne_nil, h.agrees⟩, ?_⟩
    intro start hStart hEnds
    obtain ⟨hNonempty, hAgrees⟩ := ends_iff.mp hEnds
    have hLeast := h.least start ((hStart.trans body.dropLast_prefix).trans h.beginning) hNonempty
      hAgrees
    have hLength := hStart.length_le
    have hPositive := List.length_pos_iff.mpr h.ne_nil
    rw [List.length_dropLast] at hLength
    omega
  · rintro ⟨hBeginning, hEnds, hRunning⟩
    obtain ⟨hNonempty, hAgrees⟩ := ends_iff.mp hEnds
    refine ⟨hBeginning, hNonempty, hAgrees, ?_⟩
    intro start hStart hNe hStartAgrees
    by_contra hShorter
    refine hRunning start ?_ (ends_iff.mpr ⟨hNe, hStartAgrees⟩)
    refine List.prefix_of_prefix_length_le hStart (body.dropLast_prefix.trans hBeginning) ?_
    rw [List.length_dropLast]
    omega

theorem exists_shortest (h : ∃ start, start <+: chars ∧ start ≠ [] ∧
    AgreeAtEnd start rule.closing.toList) : ∃ body, rule.Shortest chars body := by
  classical
  have hLength : ∃ n start, start.length = n ∧ start <+: chars ∧ start ≠ [] ∧
      AgreeAtEnd start rule.closing.toList := by
    obtain ⟨start, hStart⟩ := h
    exact ⟨start.length, start, rfl, hStart⟩
  obtain ⟨body, hBody, hBeginning, hNonempty, hAgrees⟩ := Nat.find_spec hLength
  refine ⟨body, hBeginning, hNonempty, hAgrees, ?_⟩
  intro start hStart hNe hStartAgrees
  rw [hBody]
  exact Nat.find_min' hLength ⟨start, rfl, hStart, hNe, hStartAgrees⟩

theorem running_iff : rule.Running chars ↔
    ¬ ∃ start, start <+: chars ∧ start ≠ [] ∧ AgreeAtEnd start rule.closing.toList := by
  simp only [Running, ends_iff, not_exists, not_and]

theorem Running.of_append {more : List Char} (h : rule.Running (chars ++ more)) :
    rule.Running chars :=
  fun start hStart => h start (hStart.trans (List.prefix_append chars more))

theorem Running.not_isInfix (h : rule.Running chars) (hClosing : rule.closing ≠ "") :
    ¬ rule.closing.toList <:+: chars := by
  rintro ⟨before, after, hChars⟩
  have hNonempty : rule.closing.toList ≠ [] := by simpa using hClosing
  exact h (before ++ rule.closing.toList) ⟨after, hChars⟩
    ⟨by simp [hNonempty], Or.inr (List.suffix_append _ _)⟩

theorem Finished.not_isInfix_content (h : rule.Finished body) (hClosing : rule.closing ≠ "") :
    ¬ rule.closing.toList <:+: rule.content body := by
  have hNonempty : 0 < rule.closing.length := by
    rw [← String.length_toList, List.length_pos_iff]
    simpa using hClosing
  -- the content was taken while the region was not closed
  have hContent : rule.content body <+: body.dropLast := by
    refine List.prefix_of_prefix_length_le (List.take_prefix _ _) body.dropLast_prefix ?_
    rw [content, List.length_take, List.length_dropLast]
    omega
  obtain ⟨rest, hRest⟩ := hContent
  have hRunning := h.2
  rw [← hRest] at hRunning
  exact hRunning.of_append.not_isInfix hClosing

end RegionRule

/-! ## Reading a region -/

namespace Scan

/-- Some characters and some tokens were added to the line, and nothing is being built. -/
structure Grown (t : Tokenizer) (s s' : Scan) (taken : List Char) (texts : List String) : Prop where
  mode_eq : s'.mode = .word []
  source_eq : s'.source.reverse = s.source.reverse ++ taken
  tokens_eq : s'.tokens.reverse = s.tokens.reverse ++ texts.map t.token
  line_eq : s'.line = s.line
  records_eq : s'.records = s.records

/-- The line is ended if the last character that was taken is a newline. -/
def endLineAfter (s : Scan) (taken : List Char) : Scan :=
  if taken.getLast? = some '\n' then s.closeLine else s

end Scan

namespace Tokenizer

variable {t : Tokenizer} {rule : RegionRule} {seed : Option Char} {taken : List Char} {s : Scan}
  {c : Char}

/-- A region that was opened, with the characters that were taken into it. -/
def inRegion (t : Tokenizer) (rule : RegionRule) (seed : Option Char) (taken : List Char)
    (s : Scan) : Scan :=
  { s with
    mode := .region rule (seed.toList ++ taken).reverse
    source := taken.reverse ++ s.source
    metrics := s.metrics.addOpening t.preferences t.limits rule.opening }

theorem reverse_seed (seed : Option Char) : seed.toList.reverse = seed.toList := by
  cases seed <;> rfl

theorem openRegion_eq_collect (t : Tokenizer) (rule : RegionRule) (seed : Option Char) (s : Scan) :
    t.openRegion rule seed.toList s =
      t.collect rule (seed.toList ++ []).reverse (t.inRegion rule seed [] s) := by
  rw [List.append_nil, reverse_seed, openRegion, collect, collect, inRegion, List.append_nil,
    reverse_seed]
  rfl

/-- What was being built does not matter for what is collected next. -/
theorem read_inRegion (t : Tokenizer) (rule : RegionRule) (seed : Option Char) (taken : List Char)
    (s : Scan) (c : Char) :
    t.read (t.inRegion rule seed taken s) c =
      t.collect rule (seed.toList ++ (taken ++ [c])).reverse
        (t.inRegion rule seed (taken ++ [c]) s) := by
  have hReverse : (seed.toList ++ (taken ++ [c])).reverse =
      c :: (seed.toList ++ taken).reverse := by
    rw [← List.append_assoc, List.reverse_concat]
  have hSource : (taken ++ [c]).reverse ++ s.source = c :: (taken.reverse ++ s.source) := by
    rw [List.reverse_concat, List.cons_append]
  rw [inRegion, inRegion, hReverse, hSource]
  rfl

theorem collect_inRegion_of_not_ends (h : ¬ rule.Ends (seed.toList ++ taken)) :
    t.collect rule (seed.toList ++ taken).reverse (t.inRegion rule seed taken s) =
      t.inRegion rule seed taken s := by
  have hOpen : ¬ rule.closedBy (seed.toList ++ taken).reverse = true := by
    rwa [rule.closedBy_iff, List.reverse_reverse]
  rw [collect, if_neg hOpen]
  rfl

theorem collect_inRegion_of_ends (h : rule.Ends (seed.toList ++ taken)) :
    t.collect rule (seed.toList ++ taken).reverse (t.inRegion rule seed taken s) =
      t.closeRegion rule (seed.toList ++ taken).reverse (t.inRegion rule seed taken s) := by
  have hClosed : rule.closedBy (seed.toList ++ taken).reverse = true := by
    rwa [rule.closedBy_iff, List.reverse_reverse]
  rw [collect, if_pos hClosed]

/-- While no beginning ends the region, its characters are taken into it. -/
theorem foldl_step_of_running (taken : List Char) (h : rule.Running (seed.toList ++ taken)) :
    taken.foldl t.step (t.openRegion rule seed.toList s) = t.inRegion rule seed taken s := by
  have hOpen := h _ (List.prefix_refl _)
  induction taken using List.reverseRecOn with
  | nil => rw [List.foldl_nil, openRegion_eq_collect, collect_inRegion_of_not_ends hOpen]
  | append_singleton taken c ih =>
    rw [← List.append_assoc] at h
    rw [List.foldl_append, ih h.of_append (h.of_append _ (List.prefix_refl _)), List.foldl_cons,
      List.foldl_nil, step, read_inRegion, collect_inRegion_of_not_ends hOpen]
    rfl

/-- The character that ends a region is the last one that is taken into it. -/
theorem foldl_step_of_finished (taken : List Char) (h : rule.Finished (seed.toList ++ taken)) :
    taken.foldl t.step (t.openRegion rule seed.toList s) =
      (t.closeRegion rule (seed.toList ++ taken).reverse
        (t.inRegion rule seed taken s)).endLineAfter taken := by
  obtain ⟨hEnds, hRunning⟩ := h
  rcases List.eq_nil_or_concat' taken with rfl | ⟨front, c, rfl⟩
  -- the seed alone ends the region, so no character is read
  · rw [List.foldl_nil, openRegion_eq_collect, collect_inRegion_of_ends hEnds]
    rfl
  · rw [← List.append_assoc, List.dropLast_concat] at hRunning
    rw [List.foldl_append, foldl_step_of_running front hRunning, List.foldl_cons, List.foldl_nil]
    unfold step
    simp only [read_inRegion, collect_inRegion_of_ends hEnds, (t.closeRegion_frame rule _ _).1,
      Scan.endLineAfter, List.getLast?_concat, Option.some.injEq]

/-! ## What a region adds -/

theorem grown_closeRegion (t : Tokenizer) (rule : RegionRule) (seed : Option Char)
    (taken : List Char) (s : Scan) :
    Scan.Grown t s
      (t.closeRegion rule (seed.toList ++ taken).reverse (t.inRegion rule seed taken s)) taken
      ((Segment.optional (rule.content (seed.toList ++ taken))).map String.ofList ++
        [rule.closing]) := by
  obtain ⟨hMode, hSource, hLine, hRecords⟩ :=
    t.closeRegion_frame rule (seed.toList ++ taken).reverse (t.inRegion rule seed taken s)
  refine ⟨hMode, ?_, ?_, hLine, hRecords⟩
  · rw [hSource, inRegion, List.reverse_append, List.reverse_reverse]
  · rw [t.closeRegion_tokens, List.reverse_append, List.reverse_reverse, List.reverse_reverse]
    rfl

theorem grown_abandonRegion (t : Tokenizer) (rule : RegionRule) (seed : Option Char)
    (taken : List Char) (s : Scan) :
    Scan.Grown t s
      (t.abandonRegion rule (seed.toList ++ taken).reverse (t.inRegion rule seed taken s)) taken
      ((Segment.optional (seed.toList ++ taken)).map String.ofList) := by
  obtain ⟨hMode, hSource, hLine, hRecords⟩ :=
    t.abandonRegion_frame rule (seed.toList ++ taken).reverse (t.inRegion rule seed taken s)
  refine ⟨hMode, ?_, ?_, hLine, hRecords⟩
  · rw [hSource, inRegion, List.reverse_append, List.reverse_reverse]
  · rw [t.abandonRegion_tokens, List.reverse_append, List.reverse_reverse, List.reverse_reverse]
    rfl

theorem regions_closeRegion (t : Tokenizer) (rule : RegionRule) (seed : Option Char)
    (taken : List Char) (s : Scan) :
    let closed := t.closeRegion rule (seed.toList ++ taken).reverse (t.inRegion rule seed taken s)
    closed.metrics.capturedRegions = s.metrics.capturedRegions + 1 ∧
      closed.metrics.unterminatedRegions = s.metrics.unterminatedRegions := by
  have hCaptured : Metrics.Steady t.preferences t.limits Metrics.capturedRegions :=
    Metrics.steady_capturedRegions
  have hUnterminated : Metrics.Steady t.preferences t.limits Metrics.unterminatedRegions :=
    Metrics.steady_unterminatedRegions
  dsimp only
  rw [t.closeRegion_metrics]
  dsimp only [inRegion]
  rw [hCaptured.texts, hCaptured.opening, hUnterminated.texts, hUnterminated.opening]
  exact ⟨rfl, rfl⟩

theorem regions_abandonRegion (t : Tokenizer) (rule : RegionRule) (seed : Option Char)
    (taken : List Char) (s : Scan) :
    let ended := t.abandonRegion rule (seed.toList ++ taken).reverse (t.inRegion rule seed taken s)
    ended.metrics.unterminatedRegions = s.metrics.unterminatedRegions + 1 ∧
      ended.metrics.capturedRegions = s.metrics.capturedRegions := by
  have hCaptured : Metrics.Steady t.preferences t.limits Metrics.capturedRegions :=
    Metrics.steady_capturedRegions
  have hUnterminated : Metrics.Steady t.preferences t.limits Metrics.unterminatedRegions :=
    Metrics.steady_unterminatedRegions
  dsimp only
  rw [t.abandonRegion_metrics]
  dsimp only [inRegion]
  rw [hUnterminated.texts, hUnterminated.opening, hCaptured.texts, hCaptured.opening]
  exact ⟨rfl, rfl⟩

/-- The seed of a region is a beginning of whatever ends it. -/
theorem exists_taken {input body : List Char} (hBody : body <+: seed.toList ++ input)
    (hNonempty : body ≠ []) :
    ∃ taken rest, body = seed.toList ++ taken ∧ input = taken ++ rest := by
  have hSeed : seed.toList.length ≤ body.length := by
    have hPositive := List.length_pos_iff.mpr hNonempty
    cases seed with
    | none => exact Nat.zero_le _
    | some c => exact hPositive
  obtain ⟨taken, rfl⟩ := List.prefix_of_prefix_length_le (List.prefix_append _ _) hBody hSeed
  obtain ⟨rest, hRest⟩ := hBody
  rw [List.append_assoc] at hRest
  exact ⟨taken, rest, rfl, (List.append_cancel_left hRest).symm⟩

/-- A region takes its characters up to the shortest beginning of them that agrees with its closing
text, and leaves what follows. It adds what it took, without as many last characters as the closing
text has, as one token unless that is empty, and then the closing text as another. If there is no
such beginning, it takes all there is, and the end of the text makes one token of it. -/
theorem openRegion_takes_shortest (t : Tokenizer) (rule : RegionRule) (seed : Option Char)
    (input : List Char) (s : Scan) :
    let chars := seed.toList ++ input
    let opened := t.openRegion rule seed.toList s
    let closable := ∃ start, start <+: chars ∧ start ≠ [] ∧
      RegionRule.AgreeAtEnd start rule.closing.toList
    (closable → ∃ body taken rest closed,
      rule.Shortest chars body ∧ body = seed.toList ++ taken ∧ input = taken ++ rest ∧
      input.foldl t.step opened = rest.foldl t.step (closed.endLineAfter taken) ∧
      Scan.Grown t s closed taken
        ((Segment.optional (rule.content body)).map String.ofList ++ [rule.closing]) ∧
      closed.metrics.capturedRegions = s.metrics.capturedRegions + 1 ∧
      closed.metrics.unterminatedRegions = s.metrics.unterminatedRegions ∧
      (rule.closing ≠ "" → ¬ rule.closing.toList <:+: rule.content body) ∧
      (rule.closing.length ≤ body.length → rule.content body ++ rule.closing.toList = body)) ∧
    (¬ closable →
      let last := input.foldl t.step opened
      let ended := t.settle last
      last.mode = .region rule chars.reverse ∧
      t.finish last = (if ended.source.isEmpty then ended else ended.closeLine) ∧
      Scan.Grown t s ended input ((Segment.optional chars).map String.ofList) ∧
      ended.metrics.unterminatedRegions = s.metrics.unterminatedRegions + 1 ∧
      ended.metrics.capturedRegions = s.metrics.capturedRegions ∧
      (rule.closing ≠ "" → ¬ rule.closing.toList <:+: chars)) := by
  intro chars opened closable
  refine ⟨fun hClosable => ?_, fun hOpen => ?_⟩
  · obtain ⟨body, hShortest⟩ := RegionRule.exists_shortest hClosable
    obtain ⟨hBeginning, hFinished⟩ := RegionRule.shortest_iff.mp hShortest
    obtain ⟨taken, rest, hBody, hInput⟩ := exists_taken hBeginning hShortest.ne_nil
    have hRead : input.foldl t.step opened =
        rest.foldl t.step ((t.closeRegion rule (seed.toList ++ taken).reverse
          (t.inRegion rule seed taken s)).endLineAfter taken) := by
      rw [hInput, List.foldl_append, foldl_step_of_finished taken (hBody ▸ hFinished)]
    obtain ⟨hCaptured, hUnterminated⟩ := t.regions_closeRegion rule seed taken s
    refine ⟨body, taken, rest, _, hShortest, hBody, hInput, hRead, ?_, hCaptured, hUnterminated,
      hFinished.not_isInfix_content, ?_⟩
    · rw [hBody]
      exact t.grown_closeRegion rule seed taken s
    · intro hLength
      rw [← hFinished.1.ending_eq hLength, RegionRule.content_append_ending]
  · have hRunning : rule.Running chars := RegionRule.running_iff.mpr hOpen
    have hRead : input.foldl t.step opened = t.inRegion rule seed input s :=
      foldl_step_of_running input hRunning
    have hEnded : t.settle (t.inRegion rule seed input s) =
        t.abandonRegion rule chars.reverse (t.inRegion rule seed input s) := rfl
    obtain ⟨hUnterminated, hCaptured⟩ := t.regions_abandonRegion rule seed input s
    dsimp only
    rw [hRead, t.finish_eq, hEnded]
    exact ⟨rfl, rfl, t.grown_abandonRegion rule seed input s, hUnterminated, hCaptured,
      hRunning.not_isInfix⟩

end Tokenizer

end Lineation
