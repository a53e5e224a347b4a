import Lineation.Proofs.Tokenizer.Simulation
import Lineation.Tokenizer.Run
import Mathlib.Data.List.Dedup

/-!
# Overlapping classes

A character may be listed in several classes and a text may open several rules; the order of
classification decides. What another entry keeps from being found can be dropped
(`Tokenizer.withoutOverlaps`). Afterwards every character is listed once and every opening text
starts one rule (`Tokenizer.ListsOnce`), and every text is cut as before.

* `SameCut.tokenize_eq`: tokenizers that cut every text in the same way give the same records and
  counts, if they name and observe tokens in the same way.
* `sameCut_withoutOverlaps`: dropped entries are found nowhere. Of a character that stands alone this
  holds because a word has none, so that its group is never asked for.
-/

namespace Lineation

namespace Tokenizer

variable {t : Tokenizer} {taken : List Char} {c : Char}

/-- The groups without the characters that are taken or belong to a group before, each character
once. -/
def ownMembers (taken : List Char) : List (List Char) → List (List Char)
  | [] => []
  | group :: rest => (group.filter (· ∉ taken)).dedup :: ownMembers (group ++ taken) rest

/-- The rules without those whose opening text is taken or is that of a rule before. -/
def openedRules (taken : List String) : List RegionRule → List RegionRule
  | [] => []
  | rule :: rest =>
    if rule.opening ∈ taken then openedRules taken rest
    else rule :: openedRules (rule.opening :: taken) rest

/-- The tokenizer without the entries that another one keeps from being found. No text opens a rule
with an empty opening text. -/
def withoutOverlaps (t : Tokenizer) : Tokenizer :=
  { t with
    groups := ownMembers ('\n' :: t.individual) t.groups
    individual := (t.individual.filter (· ≠ '\n')).dedup
    separators :=
      (t.separators.filter fun c => c ∉ '\n' :: t.individual ∧ c ∉ t.groups.flatten).dedup
    regions := openedRules [""] t.regions }

/-- No character is listed twice, the newline counting as listed, and no opening text, the empty one
counting as listed. -/
def ListsOnce (t : Tokenizer) : Prop :=
  ('\n' :: (t.individual ++ t.groups.flatten ++ t.separators)).Nodup ∧
    ("" :: t.regions.map RegionRule.opening).Nodup

/-! ## What is found -/

theorem findIdx?_ownMembers (groups : List (List Char)) (hc : c ∉ taken) :
    (ownMembers taken groups).findIdx? (·.contains c) = groups.findIdx? (·.contains c) := by
  induction groups generalizing taken with
  | nil => rfl
  | cons group rest ih =>
    have hOwn : (group.filter (· ∉ taken)).dedup.contains c = group.contains c := by simp [hc]
    rw [ownMembers, List.findIdx?_cons, List.findIdx?_cons, hOwn]
    by_cases hGroup : c ∈ group
    · simp [hGroup]
    · have hTaken : c ∉ group ++ taken := by simp [hGroup, hc]
      rw [ih hTaken]

theorem find?_openedRules {taken : List String} (rules : List RegionRule) {text : String}
    (hText : text ∉ taken) :
    (openedRules taken rules).find? (·.opening == text) = rules.find? (·.opening == text) := by
  induction rules generalizing taken with
  | nil => rfl
  | cons rule rest ih =>
    rw [openedRules, List.find?_cons]
    by_cases hOpens : rule.opening = text
    · subst hOpens
      simp [hText]
    · have hNot : (rule.opening == text) = false := by simpa using hOpens
      rw [hNot]
      split
      · exact ih hText
      · have hNext : text ∉ rule.opening :: taken := by simp [hText, Ne.symm hOpens]
        rw [List.find?_cons, hNot]
        exact ih hNext

theorem group?_withoutOverlaps (hc : ¬ t.IsAlone c) : t.withoutOverlaps.group? c = t.group? c :=
  findIdx?_ownMembers t.groups (by simpa [IsAlone] using hc)

theorem isSingle_withoutOverlaps (t : Tokenizer) (c : Char) :
    t.withoutOverlaps.isSingle c = t.isSingle c := by
  rw [Bool.eq_iff_iff, isSingle_iff, isSingle_iff]
  by_cases hc : c = '\n' <;> simp [IsAlone, withoutOverlaps, hc]

theorem classify_withoutOverlaps (t : Tokenizer) (c : Char) :
    t.withoutOverlaps.classify c = t.classify c := by
  unfold classify
  rw [isSingle_withoutOverlaps]
  split
  · rfl
  · rename_i hSingle
    have hAlone : ¬ t.IsAlone c := by rwa [← isSingle_iff]
    rw [group?_withoutOverlaps hAlone]
    split
    · rfl
    · rename_i hGroup
      have hOutside : ∀ members ∈ t.groups, c ∉ members := group?_eq_none_iff.mp hGroup
      have hSeparators : t.withoutOverlaps.separators.contains c = t.separators.contains c := by
        rw [Bool.eq_iff_iff]
        simpa [withoutOverlaps] using fun _ => ⟨not_or.mp hAlone, hOutside⟩
      rw [hSeparators]

theorem sameCut_withoutOverlaps (t : Tokenizer) : SameCut t t.withoutOverlaps where
  classify_eq := classify_withoutOverlaps t
  group?_eq _ hc := group?_withoutOverlaps hc
  rule?_eq _ hText := find?_openedRules t.regions (by simpa using hText)

/-! ## What is listed -/

theorem mem_flatten_ownMembers {groups : List (List Char)} :
    c ∈ (ownMembers taken groups).flatten ↔ c ∈ groups.flatten ∧ c ∉ taken := by
  induction groups generalizing taken with
  | nil => simp [ownMembers]
  | cons group rest ih =>
    rw [ownMembers, List.flatten_cons, List.mem_append, ih]
    by_cases hGroup : c ∈ group <;> by_cases hTaken : c ∈ taken <;> simp [hGroup, hTaken]

theorem nodup_flatten_ownMembers (groups : List (List Char)) :
    (ownMembers taken groups).flatten.Nodup := by
  induction groups generalizing taken with
  | nil => simp [ownMembers]
  | cons group rest ih =>
    rw [ownMembers, List.flatten_cons, List.nodup_append]
    refine ⟨List.nodup_dedup _, ih, ?_⟩
    rintro c hGroup d hRest rfl
    have hOutside := (mem_flatten_ownMembers.mp hRest).2
    have hMem : c ∈ group := by simp_all
    exact hOutside (List.mem_append_left _ hMem)

theorem nodup_openedRules (taken : List String) (rules : List RegionRule) :
    ((openedRules taken rules).map RegionRule.opening).Nodup ∧
      ∀ rule ∈ openedRules taken rules, rule.opening ∉ taken := by
  induction rules generalizing taken with
  | nil => simp [openedRules]
  | cons rule rest ih =>
    rw [openedRules]
    split
    · exact ih taken
    · rename_i hFree
      obtain ⟨hNodup, hRest⟩ := ih (rule.opening :: taken)
      refine ⟨List.nodup_cons.mpr ⟨?_, hNodup⟩, ?_⟩
      · intro hMem
        obtain ⟨other, hOther, hSame⟩ := List.mem_map.mp hMem
        exact hRest other hOther (hSame ▸ List.mem_cons_self)
      · intro other hOther
        rcases List.mem_cons.mp hOther with rfl | hOther
        · exact hFree
        · exact fun hTaken => hRest other hOther (List.mem_cons_of_mem _ hTaken)

theorem listsOnce_withoutOverlaps (t : Tokenizer) : t.withoutOverlaps.ListsOnce := by
  obtain ⟨hRules, hOpenings⟩ := nodup_openedRules [""] t.regions
  have hEmpty : "" ∉ t.withoutOverlaps.regions.map RegionRule.opening := by
    intro hMem
    obtain ⟨rule, hRule, hOpening⟩ := List.mem_map.mp hMem
    exact hOpenings rule hRule (by simp [hOpening])
  refine ⟨?_, List.nodup_cons.mpr ⟨hEmpty, hRules⟩⟩
  rw [List.nodup_cons, List.nodup_append, List.nodup_append]
  refine ⟨?_, ⟨List.nodup_dedup _, nodup_flatten_ownMembers _, ?_⟩, List.nodup_dedup _, ?_⟩
  · rw [List.mem_append, List.mem_append, not_or, not_or]
    refine ⟨⟨by simp [withoutOverlaps], fun hGroups => ?_⟩, by simp [withoutOverlaps]⟩
    exact (mem_flatten_ownMembers.mp hGroups).2 List.mem_cons_self
  · rintro c hIndividual d hGroups rfl
    have hMem : c ∈ t.individual := by simp_all [withoutOverlaps]
    exact (mem_flatten_ownMembers.mp hGroups).2 (List.mem_cons_of_mem _ hMem)
  · rintro c hListed d hSeparators rfl
    have hOutside : c ∉ '\n' :: t.individual ∧ c ∉ t.groups.flatten := by
      simp_all [withoutOverlaps]
    rcases List.mem_append.mp hListed with hIndividual | hGroups
    · have hMem : c ∈ t.individual := by simp_all [withoutOverlaps]
      exact hOutside.1 (List.mem_cons_of_mem _ hMem)
    · exact hOutside.2 (mem_flatten_ownMembers.mp hGroups).1

end Tokenizer

/-! ## Texts -/

theorem SameCut.simulation {t t' : Tokenizer} (hCut : SameCut t t')
    (hNaming : t'.naming = t.naming) (hPreferences : t'.preferences = t.preferences)
    (hLimits : t'.limits = t.limits) :
    Simulation t t' fun s s' => ∃ warnings, s' = { s with warnings } where
  toSameCut := hCut
  mode_eq := by
    rintro s _ ⟨warnings, rfl⟩
    rfl
  isEmpty_eq := by
    rintro s _ ⟨warnings, rfl⟩
    rfl
  withMode := by
    rintro s _ ⟨warnings, rfl⟩ mode
    exact ⟨warnings, rfl⟩
  push := by
    rintro s _ ⟨warnings, rfl⟩ c
    exact ⟨warnings, rfl⟩
  emit := by
    rintro s _ ⟨warnings, rfl⟩ text
    refine ⟨warnings, ?_⟩
    simp only [Tokenizer.emit, Tokenizer.token, hNaming, hPreferences]
  opening := by
    rintro s _ ⟨warnings, rfl⟩ text
    rw [hPreferences, hLimits]
    exact ⟨warnings, rfl⟩
  captured := by
    rintro s _ ⟨warnings, rfl⟩
    exact ⟨warnings, rfl⟩
  unterminated := by
    rintro s _ ⟨warnings, rfl⟩
    exact ⟨warnings, rfl⟩
  warnings := by
    rintro s _ ⟨_, rfl⟩ before after
    exact ⟨after, rfl⟩
  closeLine := by
    rintro s _ ⟨warnings, rfl⟩
    refine ⟨warnings, ?_⟩
    unfold Scan.closeLine
    dsimp only
    split <;> rfl

theorem SameCut.tokenize_eq {t t' : Tokenizer} (hCut : SameCut t t')
    (hNaming : t'.naming = t.naming) (hPreferences : t'.preferences = t.preferences)
    (hLimits : t'.limits = t.limits) (text : String) :
    (t'.tokenize text).records = (t.tokenize text).records ∧
      (t'.tokenize text).metrics = (t.tokenize text).metrics := by
  have hSim := hCut.simulation hNaming hPreferences hLimits
  obtain ⟨warnings, hScan⟩ :=
    hSim.finish (hSim.foldl (ReadsWhole.start t) ⟨[], rfl⟩ text.toList)
  have hRecords := congrArg (fun s : Scan => s.records.reverse) hScan
  have hMetrics := congrArg Scan.metrics hScan
  exact ⟨hRecords, hMetrics⟩

/-- Entries that another one keeps from being found can be dropped: no character and no opening text
is listed twice then, and every text gives the same records and counts. -/
theorem Tokenizer.tokenize_withoutOverlaps (t : Tokenizer) (text : String) :
    t.withoutOverlaps.ListsOnce ∧
      (t.withoutOverlaps.tokenize text).records = (t.tokenize text).records ∧
      (t.withoutOverlaps.tokenize text).metrics = (t.tokenize text).metrics :=
  ⟨listsOnce_withoutOverlaps t, (sameCut_withoutOverlaps t).tokenize_eq rfl rfl rfl text⟩

end Lineation
