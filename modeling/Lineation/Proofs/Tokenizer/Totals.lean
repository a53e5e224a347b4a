import Mathlib.Algebra.BigOperators.Group.Finset.Basic
import Mathlib.Algebra.Order.BigOperators.Group.List
import Mathlib.Algebra.Order.Group.Nat
import Lineation.Proofs.Tokenizer.Warnings

/-!
# What a run counts

Tokens are counted when they are met, and the regions that a text opens when they open. Both are
before there is a record, and a line may be dropped. What is counted are nevertheless the tokens of
the records: a line that is dropped has none.

The use of rules is a table with room for some texts. A text that came when there was no room left
is not counted at all. One that has its place is counted to the end, also when the table is full.

* `RuleUsage.foldl_count`: the table after any openings.
* `RuleUsage.sum_use`, `RuleUsage.sum_use_lt`: whether the table has all openings.
* `Metrics.ofLines_totalTokens`, `Metrics.ofLines_longestToken`, `Metrics.ofLines_ruleUsage`: the
  three counts as they follow from the segments of some lines.
* `Tokenizer.tokenize_counts`: the counts of a run.
-/

namespace Lineation

/-! ## Distinct texts -/

section Distinct

variable {α : Type} [DecidableEq α]

theorem eraseDups_concat (xs : List α) (x : α) :
    (xs ++ [x]).eraseDups = if x ∈ xs then xs.eraseDups else xs.eraseDups ++ [x] := by
  rw [List.eraseDups_append]
  by_cases h : x ∈ xs <;> simp [List.removeAll, h, List.eraseDups_cons]

theorem nodup_eraseDups (xs : List α) : xs.eraseDups.Nodup := by
  induction xs using List.reverseRecOn with
  | nil => simp
  | append_singleton xs x ih =>
    rw [eraseDups_concat]
    split
    · exact ih
    · rename_i hNew
      refine List.nodup_append.mpr ⟨ih, List.nodup_singleton x, ?_⟩
      rintro a ha b hb rfl
      rw [List.mem_singleton.mp hb, List.mem_eraseDups] at ha
      exact hNew ha

theorem sum_map_count_eraseDups (xs : List α) :
    (xs.eraseDups.map (xs.count ·)).sum = xs.length := by
  have hPerm : xs.eraseDups.Perm xs.dedup :=
    (List.perm_ext_iff_of_nodup (nodup_eraseDups xs) xs.nodup_dedup).mpr (by simp)
  rw [(hPerm.map _).sum_nat, xs.sum_map_count_dedup_eq_length]

end Distinct

/-! ## The use of rules -/

namespace RuleUsage

variable {limit : Nat} {openings : List String} {opening : String}

/-- The first distinct texts of some openings, as many as there is room for, with the number of
times that each of them occurs. -/
def use (limit : Nat) (openings : List String) : RuleUsage :=
  (openings.eraseDups.take limit).map fun text => (text, openings.count text)

theorem any_use_iff :
    (use limit openings).any (·.1 == opening) = true ↔
      opening ∈ openings.eraseDups.take limit := by
  simp only [use, List.any_map, List.any_eq_true, Function.comp_apply, beq_iff_eq, exists_eq_right]

/-- A text that is in the table is counted. -/
theorem count_use_of_mem (h : opening ∈ openings.eraseDups.take limit) :
    RuleUsage.count limit opening (use limit openings) = use limit (openings ++ [opening]) := by
  have hOld : opening ∈ openings := List.mem_eraseDups.mp (List.mem_of_mem_take h)
  rw [RuleUsage.count, if_pos (any_use_iff.mpr h), use, use, eraseDups_concat, if_pos hOld,
    List.map_map]
  apply List.map_congr_left
  intro text _
  by_cases hText : opening = text
  · simp [hText, List.count_append]
  · simp [hText, Ne.symm hText, List.count_append]

theorem length_use_lt_iff :
    (use limit openings).length < limit ↔ openings.eraseDups.length < limit := by
  simp [use]

/-- A text that is not in the table is taken up only while there is room. -/
theorem count_use_of_not_mem (h : opening ∉ openings.eraseDups.take limit) :
    RuleUsage.count limit opening (use limit openings) = use limit (openings ++ [opening]) := by
  have hKept : ∀ text ∈ openings.eraseDups.take limit,
      (text, openings.count text) = (text, (openings ++ [opening]).count text) := by
    intro text hText
    have hNe : opening ≠ text := fun hEq => h (hEq ▸ hText)
    simp [List.count_append, hNe]
  rw [RuleUsage.count, if_neg (by rwa [any_use_iff])]
  by_cases hRoom : openings.eraseDups.length < limit
  · have hNew : opening ∉ openings := fun hOld =>
      h (by rwa [List.take_of_length_le (Nat.le_of_lt hRoom), List.mem_eraseDups])
    have hAll : (openings.eraseDups ++ [opening]).length ≤ limit := by
      rw [List.length_append, List.length_singleton]
      exact hRoom
    rw [if_pos (length_use_lt_iff.mpr hRoom), use, List.map_congr_left hKept, use, eraseDups_concat,
      if_neg hNew, List.take_of_length_le (Nat.le_of_lt hRoom),
      List.take_of_length_le hAll, List.map_append]
    simp [List.count_append, List.count_eq_zero_of_not_mem hNew]
  · have hTake : (openings ++ [opening]).eraseDups.take limit = openings.eraseDups.take limit := by
      rw [eraseDups_concat]
      split
      · rfl
      · exact List.take_append_of_le_length (Nat.le_of_not_lt hRoom)
    rw [if_neg (mt length_use_lt_iff.mp hRoom), use, List.map_congr_left hKept, use, hTake]

theorem foldl_count (limit : Nat) (openings : List String) :
    openings.foldl (fun usage opening => RuleUsage.count limit opening usage) [] =
      use limit openings := by
  induction openings using List.reverseRecOn with
  | nil => simp [use]
  | append_singleton openings opening ih =>
    rw [List.foldl_append, ih, List.foldl_cons, List.foldl_nil]
    by_cases h : opening ∈ openings.eraseDups.take limit
    · exact count_use_of_mem h
    · exact count_use_of_not_mem h

/-- The openings that are in the table and those that are not. -/
theorem sum_use_add (limit : Nat) (openings : List String) :
    ((use limit openings).map Prod.snd).sum +
      ((openings.eraseDups.drop limit).map (openings.count ·)).sum = openings.length := by
  have hSplit := (openings.eraseDups.map (openings.count ·)).sum_take_add_sum_drop limit
  rw [← List.map_take, ← List.map_drop, sum_map_count_eraseDups] at hSplit
  rw [← hSplit, use, List.map_map]
  rfl

theorem sum_use (h : openings.eraseDups.length ≤ limit) :
    ((use limit openings).map Prod.snd).sum = openings.length := by
  rw [← sum_use_add limit openings, List.drop_eq_nil_of_le h]
  rfl

theorem sum_use_lt (h : limit < openings.eraseDups.length) :
    ((use limit openings).map Prod.snd).sum < openings.length := by
  have hMem : openings.eraseDups[limit] ∈ openings.eraseDups.drop limit := by
    rw [List.drop_eq_getElem_cons h]
    exact List.mem_cons_self
  have hCount : 0 < openings.count openings.eraseDups[limit] :=
    List.count_pos_iff.mpr (List.mem_eraseDups.mp (List.getElem_mem h))
  have hLeft : openings.count openings.eraseDups[limit] ≤
      ((openings.eraseDups.drop limit).map (openings.count ·)).sum :=
    List.le_sum_of_mem (List.mem_map_of_mem hMem)
  have hAll := sum_use_add limit openings
  omega

end RuleUsage

/-! ## Counts of segments -/

namespace Segment

/-- The text that opens a region. -/
def opening? : Segment → Option String
  | .plain _ => none
  | .closed rule _ => some rule.opening
  | .unclosed rule _ => some rule.opening

/-- Every segment that opens a region is one that was closed or one in which the text ended. -/
theorem length_filterMap_opening? (segments : List Segment) :
    (segments.filterMap opening?).length =
      segments.countP isClosed + segments.countP isUnclosed := by
  induction segments with
  | nil => rfl
  | cons segment segments ih =>
    cases segment with
    | plain text =>
      simpa [List.filterMap_cons, List.countP_cons, opening?, isClosed, isUnclosed] using ih
    | closed rule body =>
      simp [List.countP_cons, opening?, isClosed, isUnclosed, ih, Nat.add_right_comm]
    | unclosed rule body =>
      simp [List.countP_cons, opening?, isClosed, isUnclosed, ih, Nat.add_assoc]

end Segment

namespace Metrics

variable {preferences : LexicalPreferences} {limits : Limits}

/-- A count that goes on with every token and with nothing else. -/
structure OfTokens {α : Type} (preferences : LexicalPreferences) (limits : Limits)
    (count : Metrics → α) (add : α → String → α) : Prop where
  token : ∀ (m : Metrics) (text : String),
    count (m.addToken preferences text) = add (count m) text
  opening : ∀ (m : Metrics) (text : String), count (m.addOpening preferences limits text) = count m
  captured : ∀ (m : Metrics) (n : Nat), count { m with capturedRegions := n } = count m
  unterminated : ∀ (m : Metrics) (n : Nat), count { m with unterminatedRegions := n } = count m
  line : ∀ m : Metrics, count m.addLine = count m

namespace OfTokens

variable {α : Type} {count : Metrics → α} {add : α → String → α}

theorem texts (h : OfTokens preferences limits count add) (m : Metrics) (texts : List String) :
    count (m.addTexts preferences texts) = texts.foldl add (count m) := by
  unfold addTexts
  induction texts generalizing m with
  | nil => rfl
  | cons text texts ih => rw [List.foldl_cons, ih, h.token, List.foldl_cons]

theorem head (h : OfTokens preferences limits count add) (m : Metrics) (rule : RegionRule) :
    count (m.addHead preferences limits rule) = add (count m) rule.opening := by
  rw [addHead, h.opening, h.token]

theorem segment (h : OfTokens preferences limits count add) (m : Metrics) (s : Segment) :
    count (m.addSegment preferences limits s) = s.texts.foldl add (count m) := by
  cases s with
  | plain text => exact h.token m _
  | closed rule body =>
    rw [addSegment]
    rw [h.captured, h.texts, h.head]
    rfl
  | unclosed rule body =>
    rw [addSegment]
    rw [h.unterminated, h.texts, h.head]
    rfl

theorem ofLines (h : OfTokens preferences limits count add) (lines : List (List Segment)) :
    count (Metrics.ofLines preferences limits lines) =
      (lines.flatten.flatMap Segment.texts).foldl add (count {}) := by
  rw [ofLines_eq_foldl count (fun n s => s.texts.foldl add n) h.segment h.line, List.foldl_flatMap]

end OfTokens

theorem ofLines_totalTokens (lines : List (List Segment)) :
    (ofLines preferences limits lines).totalTokens =
      (lines.flatten.flatMap Segment.texts).length := by
  have hCount : OfTokens preferences limits totalTokens (fun n _ => n + 1) :=
    ⟨fun _ _ => rfl, fun m text => by unfold addOpening; split <;> rfl, fun _ _ => rfl,
      fun _ _ => rfl, fun _ => rfl⟩
  rw [hCount.ofLines, List.foldl_add_const]
  exact (Nat.zero_add _).trans (Nat.one_mul _)

theorem ofLines_longestToken (lines : List (List Segment)) :
    (ofLines preferences limits lines).longestToken =
      if preferences.detailedMetrics then
        ((lines.flatten.flatMap Segment.texts).map String.length).max?.getD 0
      else 0 := by
  have hOpening : ∀ (m : Metrics) (text : String),
      (m.addOpening preferences limits text).longestToken = m.longestToken := by
    intro m text
    unfold addOpening
    split <;> rfl
  cases hDetailed : preferences.detailedMetrics with
  | false =>
    have hCount : OfTokens preferences limits longestToken (fun n _ => n) :=
      ⟨fun m text => by simp [addToken, hDetailed], hOpening, fun _ _ => rfl, fun _ _ => rfl,
        fun _ => rfl⟩
    rw [hCount.ofLines, List.foldl_fixed]
    rfl
  | true =>
    have hCount : OfTokens preferences limits longestToken (fun n text => max n text.length) :=
      ⟨fun m text => by simp [addToken, hDetailed], hOpening, fun _ _ => rfl, fun _ _ => rfl,
        fun _ => rfl⟩
    rw [hCount.ofLines, ← List.foldl_map, List.foldl_max]
    simp

theorem ruleUsage_addTexts (m : Metrics) (texts : List String) :
    (m.addTexts preferences texts).ruleUsage = m.ruleUsage := by
  unfold addTexts
  induction texts generalizing m with
  | nil => rfl
  | cons text texts ih => exact ih (m.addToken preferences text)

/-- Counts a region in the use of rules, if that is wanted. -/
def noteUse (preferences : LexicalPreferences) (limits : Limits) (usage : RuleUsage)
    (opening : String) : RuleUsage :=
  if preferences.trackRules then RuleUsage.count limits.maxTrackedRules opening usage
  else usage

theorem ruleUsage_addHead (m : Metrics) (rule : RegionRule) :
    (m.addHead preferences limits rule).ruleUsage =
      noteUse preferences limits m.ruleUsage rule.opening := by
  unfold addHead addOpening noteUse
  split <;> rfl

theorem ruleUsage_addSegment (m : Metrics) (s : Segment) :
    (m.addSegment preferences limits s).ruleUsage =
      s.opening?.toList.foldl (noteUse preferences limits) m.ruleUsage := by
  cases s with
  | plain text => rfl
  | closed rule body => exact (ruleUsage_addTexts _ _).trans (ruleUsage_addHead m rule)
  | unclosed rule body => exact (ruleUsage_addTexts _ _).trans (ruleUsage_addHead m rule)

/-- The use of rules is that of the openings, if it is wanted. -/
theorem ofLines_ruleUsage (lines : List (List Segment)) :
    (ofLines preferences limits lines).ruleUsage =
      if preferences.trackRules then
        RuleUsage.use limits.maxTrackedRules (lines.flatten.filterMap Segment.opening?)
      else [] := by
  have hUsage : (ofLines preferences limits lines).ruleUsage =
      (lines.flatten.filterMap Segment.opening?).foldl (noteUse preferences limits) [] := by
    rw [List.filterMap_eq_flatMap_toList, List.foldl_flatMap]
    exact ofLines_eq_foldl ruleUsage _ ruleUsage_addSegment (fun _ => rfl) lines
  rw [hUsage]
  unfold noteUse
  cases preferences.trackRules with
  | false => exact List.foldl_fixed _
  | true => exact RuleUsage.foldl_count _ _

end Metrics

namespace Layout

variable {t : Tokenizer} {text : List Char} {s : Scan} {lines : List (List Stretch)}
  {tail : List Char}

/-- A line that is dropped adds to no count but those of lines. -/
theorem counts_eq (h : Layout t text s lines tail) :
    let m := Metrics.ofLines t.preferences t.limits (lines.map Stretch.segments)
    s.metrics.totalTokens = m.totalTokens ∧ s.metrics.longestToken = m.longestToken ∧
      s.metrics.ruleUsage = m.ruleUsage := by
  rw [h.metrics_eq]
  split <;> exact ⟨rfl, rfl, rfl⟩

end Layout

namespace Tokenizer

theorem sum_size_records (records : List LineRecord) :
    (records.map LineRecord.size).sum = (records.flatMap LineRecord.texts).length := by
  rw [List.length_flatMap]
  refine congrArg List.sum (List.map_congr_left fun record _ => ?_)
  simp [LineRecord.size, LineRecord.texts]

/-- The counts of a run are those of its records. The use of rules has the first texts that opened a
region, as many as there is room for, each with the number of all regions that it opened; it has all
regions exactly when there is room for all texts. -/
theorem tokenize_counts (t : Tokenizer) (text : String) :
    let run := t.tokenize text
    let usage := run.metrics.ruleUsage
    let regions := run.metrics.capturedRegions + run.metrics.unterminatedRegions
    let room := t.limits.maxTrackedRules
    run.metrics.totalTokens = (run.records.map LineRecord.size).sum ∧
      run.metrics.longestToken =
        (if t.preferences.detailedMetrics then
          ((run.records.flatMap LineRecord.texts).map String.length).max?.getD 0
        else 0) ∧
      ∃ lines : List (List Stretch),
        run.records = t.records lines ∧
        (∀ stretch ∈ lines.flatten, stretch.Valid t) ∧
        let openings := (Stretch.segments lines.flatten).filterMap Segment.opening?
        openings.length = regions ∧
        (t.preferences.trackRules = false → usage = []) ∧
        (t.preferences.trackRules = true →
          usage.map Prod.fst = openings.eraseDups.take room ∧
          (∀ use ∈ usage, use.2 = openings.count use.1) ∧
          ((usage.map Prod.snd).sum = regions ↔ openings.eraseDups.length ≤ room) ∧
          (room < openings.eraseDups.length → (usage.map Prod.snd).sum < regions)) := by
  intro run usage regions room
  obtain ⟨lines, tail, hLayout, hRecords, hMetrics⟩ := exists_layout_tokenize t text
  obtain ⟨hTokens, hLongest, hUsage⟩ := hLayout.counts_eq
  rw [← hMetrics] at hTokens hLongest hUsage
  have hTexts : run.records.flatMap LineRecord.texts =
      (lines.map Stretch.segments).flatten.flatMap Segment.texts := by
    rw [show run.records = t.records lines from hRecords, flatMap_texts_records, Stretch.texts,
      Stretch.segments_flatten]
  refine ⟨?_, ?_, lines, hRecords, hLayout.valid, ?_⟩
  · rw [sum_size_records, hTexts, ← Metrics.ofLines_totalTokens]
    exact hTokens
  · rw [hTexts, ← Metrics.ofLines_longestToken]
    exact hLongest
  · intro openings
    have hRegions : openings.length = regions := by
      rw [Segment.length_filterMap_opening?, Stretch.segments_flatten,
        ← hLayout.capturedRegions_eq, ← hLayout.unterminatedRegions_eq, ← hMetrics]
    rw [Metrics.ofLines_ruleUsage, ← Stretch.segments_flatten] at hUsage
    refine ⟨hRegions, fun hTrack => ?_, fun hTrack => ?_⟩
    · rw [if_neg (by simp [hTrack])] at hUsage
      exact hUsage
    · rw [if_pos hTrack] at hUsage
      have hUse : usage = RuleUsage.use room openings := hUsage
      rw [hUse, ← hRegions]
      refine ⟨?_, ?_, ⟨fun hSum => ?_, RuleUsage.sum_use⟩, RuleUsage.sum_use_lt⟩
      · simp [RuleUsage.use, Function.comp_def]
      · intro use hMem
        obtain ⟨found, -, rfl⟩ := List.mem_map.mp hMem
        rfl
      · by_contra hMore
        exact Nat.ne_of_lt (RuleUsage.sum_use_lt (Nat.lt_of_not_le hMore)) hSum

end Tokenizer

end Lineation
