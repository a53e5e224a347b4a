import Lineation.Tokenizer.Scan

/-!
# Classes of characters, and rules

`Tokenizer.classify` and `Tokenizer.rule?` decide by searching lists. This file says what they
find in terms of membership, and which texts can be tokens outside a region.

* `classify_eq_single_iff`, `classify_eq_grouped_iff`, `classify_eq_separator_iff`,
  `classify_eq_ordinary_iff`: the four classes exclude each other in the order of the search.
* `rule?_eq_some_iff`: the rule of a text is the first one with that opening text.
* `IsWord.snoc_grouped`, `IsWord.snoc_ordinary`: how a word can go on.
* `IsAlone.not_isWord_snoc`, `IsGap.not_isWord_snoc`, `InGroup.not_isWord_snoc`: what a word cannot
  go on with.
* `RegionRule.closedBy_iff`: what was collected in a region ends it when it and the closing text
  agree from the end as far as both go.
-/

namespace Lineation

namespace Tokenizer

variable {t : Tokenizer} {c : Char}

/-! ## Classes -/

/-- A newline, or one of the characters that are tokens by themselves. -/
def IsAlone (t : Tokenizer) (c : Char) : Prop := c = '\n' ∨ c ∈ t.individual

/-- Not alone, member of the group at this position and of none before it. -/
def InGroup (t : Tokenizer) (group : Nat) (c : Char) : Prop :=
  ¬ t.IsAlone c ∧ ∃ h : group < t.groups.length, c ∈ t.groups[group] ∧
    ∀ (earlier : Nat) (hEarlier : earlier < group), c ∉ t.groups[earlier]

/-- A separator that is neither alone nor in a group. -/
def IsGap (t : Tokenizer) (c : Char) : Prop :=
  ¬ t.IsAlone c ∧ (∀ members ∈ t.groups, c ∉ members) ∧ c ∈ t.separators

/-- Neither alone nor in a group nor a separator. -/
def IsOrdinary (t : Tokenizer) (c : Char) : Prop :=
  ¬ t.IsAlone c ∧ (∀ members ∈ t.groups, c ∉ members) ∧ c ∉ t.separators

instance (t : Tokenizer) (c : Char) : Decidable (t.IsAlone c) :=
  inferInstanceAs (Decidable (c = '\n' ∨ c ∈ t.individual))

instance (t : Tokenizer) (group : Nat) (c : Char) : Decidable (t.InGroup group c) :=
  inferInstanceAs (Decidable (¬ t.IsAlone c ∧ ∃ h : group < t.groups.length, c ∈ t.groups[group] ∧
    ∀ (earlier : Nat) (hEarlier : earlier < group), c ∉ t.groups[earlier]))

instance (t : Tokenizer) (c : Char) : Decidable (t.IsGap c) :=
  inferInstanceAs (Decidable (¬ t.IsAlone c ∧ (∀ members ∈ t.groups, c ∉ members) ∧
    c ∈ t.separators))

instance (t : Tokenizer) (c : Char) : Decidable (t.IsOrdinary c) :=
  inferInstanceAs (Decidable (¬ t.IsAlone c ∧ (∀ members ∈ t.groups, c ∉ members) ∧
    c ∉ t.separators))

theorem isSingle_iff : t.isSingle c = true ↔ t.IsAlone c := by
  simp [isSingle, IsAlone]

theorem group?_eq_none_iff : t.group? c = none ↔ ∀ members ∈ t.groups, c ∉ members := by
  simp [group?]

theorem group?_eq_some_iff {group : Nat} : t.group? c = some group ↔
    ∃ h : group < t.groups.length, c ∈ t.groups[group] ∧
      ∀ (earlier : Nat) (hEarlier : earlier < group), c ∉ t.groups[earlier] := by
  simp [group?, List.findIdx?_eq_some_iff_getElem]

theorem classify_eq_single_iff : t.classify c = .single ↔ t.IsAlone c := by
  rw [← isSingle_iff]
  unfold classify
  split
  · simpa
  · rename_i h
    split
    · simp [h]
    · split <;> simp [h]

theorem classify_eq_grouped_iff {group : Nat} :
    t.classify c = .grouped group ↔ t.InGroup group c := by
  rw [InGroup, ← group?_eq_some_iff, ← isSingle_iff]
  unfold classify
  split
  · simp_all
  · rename_i h
    split
    · rename_i found hFound
      simp [h, hFound]
    · rename_i hNone
      split <;> simp [hNone]

theorem classify_eq_separator_iff : t.classify c = .separator ↔ t.IsGap c := by
  rw [IsGap, ← group?_eq_none_iff, ← isSingle_iff]
  unfold classify
  split
  · simp_all
  · rename_i h
    split
    · rename_i found hFound
      simp [hFound]
    · rename_i hNone
      split <;> simp_all

theorem classify_eq_ordinary_iff : t.classify c = .ordinary ↔ t.IsOrdinary c := by
  rw [IsOrdinary, ← group?_eq_none_iff, ← isSingle_iff]
  unfold classify
  split
  · simp_all
  · rename_i h
    split
    · rename_i found hFound
      simp [hFound]
    · rename_i hNone
      split <;> simp_all

/-- A character is of at most one group. -/
theorem InGroup.unique {group other : Nat} (h : t.InGroup group c) (h' : t.InGroup other c) :
    group = other :=
  CharClass.grouped.inj
    ((classify_eq_grouped_iff.mpr h).symm.trans (classify_eq_grouped_iff.mpr h'))

theorem InGroup.lt_length {group : Nat} (h : t.InGroup group c) : group < t.groups.length :=
  h.2.1

theorem IsGap.ne_newline (h : t.IsGap c) : c ≠ '\n' := fun hc => h.1 (Or.inl hc)

/-! ## Words -/

/-- Some characters of one group and then some ordinary ones, not none in all. -/
def IsWord (t : Tokenizer) (text : List Char) : Prop :=
  text ≠ [] ∧ ∃ (group : Nat) (lead rest : List Char), text = lead ++ rest ∧
    (∀ c ∈ lead, t.InGroup group c) ∧ ∀ c ∈ rest, t.IsOrdinary c

/-- One character that is alone, or a word: a token outside a region. -/
def IsHead (t : Tokenizer) (text : List Char) : Prop :=
  (∃ c, t.IsAlone c ∧ text = [c]) ∨ t.IsWord text

theorem IsHead.ne_nil {text : List Char} (h : t.IsHead text) : text ≠ [] := by
  rcases h with ⟨c, _, rfl⟩ | h
  · simp
  · exact h.1

theorem IsWord.not_isAlone {text : List Char} (h : t.IsWord text) : ∀ c ∈ text, ¬ t.IsAlone c := by
  obtain ⟨_, group, lead, rest, rfl, hLead, hRest⟩ := h
  intro c hMem
  rcases List.mem_append.mp hMem with hMem | hMem
  · exact (hLead c hMem).1
  · exact (hRest c hMem).1

theorem isWord_singleton_grouped {group : Nat} (hc : t.InGroup group c) : t.IsWord [c] :=
  ⟨by simp, group, [c], [], by simp, by simpa using hc, by simp⟩

theorem isWord_singleton_ordinary (hc : t.IsOrdinary c) : t.IsWord [c] :=
  ⟨by simp, 0, [], [c], by simp, by simp, by simpa using hc⟩

theorem IsWord.snoc_ordinary {text : List Char} (h : t.IsWord text) (hc : t.IsOrdinary c) :
    t.IsWord (text ++ [c]) := by
  obtain ⟨_, group, lead, rest, rfl, hLead, hRest⟩ := h
  refine ⟨by simp, group, lead, rest ++ [c], by simp, hLead, ?_⟩
  intro d hd
  rcases List.mem_append.mp hd with hd | hd
  · exact hRest d hd
  · rw [List.mem_singleton.mp hd]
    exact hc

/-- A word goes on with a member of a group only while it has nothing but members of it. -/
theorem IsWord.snoc_grouped {text : List Char} {last : Char} {group : Nat}
    (h : t.IsWord (text ++ [last])) (hLast : t.group? last = some group)
    (hc : t.InGroup group c) : t.IsWord (text ++ [last] ++ [c]) := by
  obtain ⟨_, group', lead, rest, hText, hLead, hRest⟩ := h
  rcases List.eq_nil_or_concat rest with rfl | ⟨front, d, rfl⟩
  · rw [List.append_nil] at hText
    have hGroup : group' = group := by
      have hMem : last ∈ lead := by simp [← hText]
      have hSome := group?_eq_some_iff.mpr (hLead last hMem).2
      rw [hLast] at hSome
      exact (Option.some.inj hSome).symm
    subst hGroup
    refine ⟨by simp, group', lead ++ [c], [], by simp [hText], ?_, by simp⟩
    intro d hd
    rcases List.mem_append.mp hd with hd | hd
    · exact hLead d hd
    · rw [List.mem_singleton.mp hd]
      exact hc
  · have hEq : last = d := by
      rw [List.concat_eq_append, ← List.append_assoc] at hText
      exact (List.append_singleton_inj.mp hText).2
    have hNone := group?_eq_none_iff.mpr (hRest d (by simp)).2.1
    rw [← hEq, hLast] at hNone
    cases hNone

theorem IsAlone.not_isWord_snoc (hc : t.IsAlone c) (text : List Char) :
    ¬ t.IsWord (text ++ [c]) :=
  fun h => h.not_isAlone c (by simp) hc

theorem IsGap.not_isWord_snoc (hc : t.IsGap c) (text : List Char) : ¬ t.IsWord (text ++ [c]) := by
  rintro ⟨_, group, lead, rest, hText, hLead, hRest⟩
  have hMem : c ∈ lead ++ rest := by simp [← hText]
  rcases List.mem_append.mp hMem with hMem | hMem
  · obtain ⟨_, hGroup, hIn, _⟩ := hLead c hMem
    exact hc.2.1 _ (List.getElem_mem hGroup) hIn
  · exact (hRest c hMem).2.2 hc.2.2

theorem InGroup.not_isWord_snoc {last : Char} {group : Nat} (hc : t.InGroup group c)
    (hLast : t.group? last ≠ some group) (text : List Char) :
    ¬ t.IsWord (text ++ [last] ++ [c]) := by
  rintro ⟨_, group', lead, rest, hText, hLead, hRest⟩
  rcases List.eq_nil_or_concat rest with rfl | ⟨front, d, rfl⟩
  · rw [List.append_nil] at hText
    have hLastGroup := group?_eq_some_iff.mpr (hLead last (by simp [← hText])).2
    have hcGroup := group?_eq_some_iff.mpr (hLead c (by simp [← hText])).2
    rw [group?_eq_some_iff.mpr hc.2] at hcGroup
    exact hLast (hLastGroup.trans hcGroup.symm)
  · have hEq : c = d := by
      rw [List.concat_eq_append, ← List.append_assoc] at hText
      exact (List.append_singleton_inj.mp hText).2
    have hNone := group?_eq_none_iff.mpr (hRest d (by simp)).2.1
    rw [← hEq, group?_eq_some_iff.mpr hc.2] at hNone
    cases hNone

/-! ## Rules -/

/-- A rule that no rule before it keeps from being found. -/
def IsFirst (t : Tokenizer) (rule : RegionRule) : Prop :=
  ∃ before after, t.regions = before ++ rule :: after ∧
    ∀ earlier ∈ before, earlier.opening ≠ rule.opening

theorem rule?_eq_none_iff {text : String} :
    t.rule? text = none ↔ ∀ rule ∈ t.regions, rule.opening ≠ text := by
  simp [rule?]

theorem rule?_eq_some_iff {text : String} {rule : RegionRule} :
    t.rule? text = some rule ↔ rule.opening = text ∧ t.IsFirst rule := by
  unfold rule? IsFirst
  rw [List.find?_eq_some_iff_append]
  constructor
  · rintro ⟨hText, before, after, hRegions, hBefore⟩
    have hText : rule.opening = text := by simpa using hText
    subst hText
    exact ⟨rfl, before, after, hRegions, by simpa using hBefore⟩
  · rintro ⟨rfl, before, after, hRegions, hBefore⟩
    exact ⟨by simp, before, after, hRegions, by simpa using hBefore⟩

end Tokenizer

/-! ## The end of a region -/

/-- Two lists that agree as far as both go. -/
theorem all_zip_beq_iff (as bs : List Char) :
    ((as.zip bs).all fun (a, b) => a == b) = true ↔ as <+: bs ∨ bs <+: as := by
  induction as generalizing bs with
  | nil => simp
  | cons a as ih =>
    cases bs with
    | nil => simp
    | cons b bs =>
      simp only [List.zip_cons_cons, List.all_cons, Bool.and_eq_true, beq_iff_eq, ih,
        List.cons_prefix_cons]
      constructor
      · rintro ⟨rfl, h | h⟩
        · exact Or.inl ⟨rfl, h⟩
        · exact Or.inr ⟨rfl, h⟩
      · rintro (⟨rfl, h⟩ | ⟨rfl, h⟩)
        · exact ⟨rfl, Or.inl h⟩
        · exact ⟨rfl, Or.inr h⟩

namespace RegionRule

/-- The characters of a region agree with the closing text from the end, as far as both go. -/
def Ends (rule : RegionRule) (body : List Char) : Prop :=
  body ≠ [] ∧ (body <:+ rule.closing.toList ∨ rule.closing.toList <:+ body)

theorem closedBy_iff (rule : RegionRule) (content : List Char) :
    rule.closedBy content = true ↔ rule.Ends content.reverse := by
  unfold closedBy Ends
  rw [Bool.and_eq_true, all_zip_beq_iff, ← List.reverse_suffix, ← List.reverse_suffix,
    List.reverse_reverse]
  simp

/-- The characters of a region that is still open: no beginning of them ends it. -/
def Running (rule : RegionRule) (body : List Char) : Prop :=
  ∀ start, start <+: body → ¬ rule.Ends start

/-- The characters of a region that has just ended. -/
def Finished (rule : RegionRule) (body : List Char) : Prop :=
  rule.Ends body ∧ rule.Running body.dropLast

theorem running_nil (rule : RegionRule) : rule.Running [] := by
  intro start hStart hEnds
  exact hEnds.1 (List.prefix_nil.mp hStart)

theorem Running.snoc {rule : RegionRule} {body : List Char} {c : Char} (h : rule.Running body)
    (hc : ¬ rule.Ends (body ++ [c])) : rule.Running (body ++ [c]) := by
  intro start hStart
  rcases List.prefix_concat_iff.mp hStart with rfl | hStart
  · simpa using hc
  · exact h start hStart

end RegionRule

end Lineation
