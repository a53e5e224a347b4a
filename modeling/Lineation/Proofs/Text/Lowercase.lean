import Mathlib.Data.List.Pairwise
import Lineation.Text.Lowercase

/-!
# What lower case is

A text is in the lower case of another one if each character has become what it is in its place
(`Lowered`). For most characters the place does not matter: a table of progressions moves them by a
distance or has no entry for them (`SimpleLower`). A capital I with a dot above becomes two
characters, and a capital sigma at the end of a word another one than elsewhere (`LowerAt`).

The conversion searches the table for the first progression that has a character. The progressions
are in increasing order, so there is no second one (`HasChar.unique`), and a character that is moved
stays a character (`toNat_shifted`).

* `simpleLower_iff`, `lowerAt_iff`, `lowered_iff`: the conversion gives what is in lower case, and
  nothing else is.
-/

namespace Lineation.Text

variable {c d : Char} {shift : Int}

/-! ## Tables -/

/-- Some range of the table has the character. -/
def CodePoints.Has (table : CodePoints) (c : Char) : Prop :=
  ∃ range ∈ table, range.1 ≤ c.toNat ∧ c.toNat ≤ range.2

theorem CodePoints.contains_iff {table : CodePoints} : table.contains c = true ↔ table.Has c := by
  rw [contains, Array.any_eq_true', Has]
  simp only [Bool.and_eq_true, decide_eq_true_eq]

/-- A progression of the table: its first and last code point, its step and its distance. -/
abbrev Progression := Nat × Nat × Nat × Int

/-- The progression has the character. -/
def HasChar (progression : Progression) (c : Char) : Prop :=
  progression.1 ≤ c.toNat ∧ c.toNat ≤ progression.2.1 ∧
    progression.2.2.1 ∣ c.toNat - progression.1

/-- One progression ends before the other one starts, and that one is not empty. -/
def Before (a b : Progression) : Prop := a.2.1 < b.1 ∧ b.1 ≤ b.2.1

instance : DecidableRel Before := fun a b => inferInstanceAs (Decidable (a.2.1 < b.1 ∧ b.1 ≤ b.2.1))

instance : Trans Before Before Before where
  trans hab hbc := ⟨Nat.lt_trans (Nat.lt_of_lt_of_le hab.1 hab.2) hbc.1, hbc.2⟩

theorem progressions_increasing : lowerProgressions.toList.Pairwise Before :=
  List.isChain_iff_pairwise.mp (by decide +kernel)

/-- Of the first characters only the capital letters are in the table. -/
theorem progressions_eq_cons : ∃ others, lowerProgressions.toList = (0x41, 0x5a, 1, 32) :: others ∧
    ∀ progression ∈ others, 0x80 ≤ progression.1 :=
  ⟨lowerProgressions.toList.tail, rfl, by decide +kernel⟩

/-- No progression leads out of the characters. -/
theorem progressions_valid : ∀ progression ∈ lowerProgressions.toList,
    (0 ≤ progression.1 + progression.2.2.2 ∧ progression.2.1 + progression.2.2.2 < 0xd800) ∨
      0xe000 ≤ progression.1 + progression.2.2.2 ∧
        progression.2.1 + progression.2.2.2 < 0x110000 := by
  decide +kernel

/-- One of two progressions ends before the other one starts. -/
def Apart (a b : Progression) : Prop := Before a b ∨ Before b a

instance : Std.Symm Apart := ⟨fun _ _ => Or.symm⟩

theorem HasChar.unique {a b : Progression} (ha : a ∈ lowerProgressions.toList)
    (hb : b ∈ lowerProgressions.toList) (hac : HasChar a c) (hbc : HasChar b c) : a = b := by
  by_contra hNe
  have hApart : lowerProgressions.toList.Pairwise Apart := progressions_increasing.imp Or.inl
  have hOrder := hApart.forall ha hb hNe
  obtain ⟨hFirst, hLast, -⟩ := hac
  obtain ⟨hFirst', hLast', -⟩ := hbc
  rcases hOrder with ⟨hOrder, -⟩ | ⟨hOrder, -⟩ <;> omega

/-! ## Single characters -/

/-- A progression has the character and moves it by this distance. -/
def ShiftedBy (c : Char) (shift : Int) : Prop :=
  ∃ progression ∈ lowerProgressions.toList, HasChar progression c ∧ progression.2.2.2 = shift

/-- What a character becomes in any place. -/
inductive SimpleLower (c d : Char) : Prop
  | shifted {shift : Int} (h : ShiftedBy c shift) (hd : (d.toNat : Int) = c.toNat + shift)
  | unlisted (h : ∀ shift, ¬ ShiftedBy c shift) (hd : d = c)

theorem toNat_shifted (h : ShiftedBy c shift) :
    ((Char.ofNat ((c.toNat : Int) + shift).toNat).toNat : Int) = c.toNat + shift := by
  obtain ⟨progression, hMem, ⟨hFirst, hLast, -⟩, rfl⟩ := h
  have hRange := progressions_valid progression hMem
  have hValid : ((c.toNat : Int) + progression.2.2.2).toNat.isValidChar := by
    unfold Nat.isValidChar
    omega
  have hToNat : (Char.ofNat ((c.toNat : Int) + progression.2.2.2).toNat).toNat =
      ((c.toNat : Int) + progression.2.2.2).toNat := by
    rw [Char.ofNat, dif_pos hValid]
    rfl
  rw [hToNat]
  omega

theorem progression?_eq_some {progression : Progression} (h : progression? c = some progression) :
    ShiftedBy c progression.2.2.2 := by
  refine ⟨progression, Array.mem_toList_iff.mpr (Array.mem_of_find?_eq_some h), ?_, rfl⟩
  have hFound := Array.find?_some h
  simp only [Bool.and_eq_true, decide_eq_true_eq, beq_iff_eq] at hFound
  exact ⟨hFound.1.1, hFound.1.2, Nat.dvd_of_mod_eq_zero hFound.2⟩

theorem progression?_eq_none (h : progression? c = none) (shift : Int) : ¬ ShiftedBy c shift := by
  rintro ⟨progression, hMem, ⟨hFirst, hLast, hStep⟩, -⟩
  have hNone := Array.find?_eq_none.mp h progression (Array.mem_toList_iff.mp hMem)
  simp [hFirst, hLast, Nat.mod_eq_zero_of_dvd hStep] at hNone

/-- The short way for the first characters gives what the table says. -/
theorem simpleLower_toLower (h : c.toNat < 0x80) : SimpleLower c c.toLower := by
  have hAll : ∀ n < 0x80, (Char.ofNat n).toLower.toNat =
      if 0x41 ≤ n ∧ n ≤ 0x5a then n + 32 else n := by
    decide
  have hToNat := hAll c.toNat h
  rw [Char.ofNat_toNat] at hToNat
  obtain ⟨others, hTable, hOthers⟩ := progressions_eq_cons
  by_cases hCapital : 0x41 ≤ c.toNat ∧ c.toNat ≤ 0x5a
  · rw [if_pos hCapital] at hToNat
    refine .shifted ⟨_, hTable ▸ List.mem_cons_self, ⟨hCapital.1, hCapital.2, Nat.one_dvd _⟩, rfl⟩ ?_
    rw [hToNat]
    rfl
  · rw [if_neg hCapital] at hToNat
    refine .unlisted ?_ (Char.toNat_inj.mp hToNat)
    rintro shift ⟨progression, hMem, ⟨hFirst, hLast, -⟩, -⟩
    rw [hTable] at hMem
    rcases List.mem_cons.mp hMem with rfl | hOther
    · exact hCapital ⟨hFirst, hLast⟩
    · have hFar := hOthers progression hOther
      omega

theorem simpleLower_lowerSimple (c : Char) : SimpleLower c (lowerSimple c) := by
  unfold lowerSimple
  split
  · rename_i hFirst
    exact simpleLower_toLower hFirst
  · split
    · rename_i hFound
      have hShifted := progression?_eq_some hFound
      exact .shifted hShifted (toNat_shifted hShifted)
    · rename_i hNone
      exact .unlisted (progression?_eq_none hNone) rfl

theorem ShiftedBy.unique {other : Int} (h : ShiftedBy c shift) (h' : ShiftedBy c other) :
    shift = other := by
  obtain ⟨a, ha, hac, rfl⟩ := h
  obtain ⟨b, hb, hbc, rfl⟩ := h'
  rw [hac.unique ha hb hbc]

theorem SimpleLower.unique {other : Char} (h : SimpleLower c d) (h' : SimpleLower c other) :
    d = other := by
  cases h with
  | shifted h hd =>
    cases h' with
    | shifted h' hd' =>
      rw [h.unique h', ← hd'] at hd
      exact Char.toNat_inj.mp (Int.ofNat_inj.mp hd)
    | unlisted h' => exact absurd h (h' _)
  | unlisted h hd =>
    cases h' with
    | shifted h' => exact absurd h' (h _)
    | unlisted _ hd' => rw [hd, hd']

theorem simpleLower_iff : SimpleLower c d ↔ d = lowerSimple c :=
  ⟨fun h => h.unique (simpleLower_lowerSimple c), fun h => h ▸ simpleLower_lowerSimple c⟩

/-! ## Characters in their places -/

/-- After characters that are ignored there comes a letter with a case. -/
def MeetsCased (text : List Char) : Prop :=
  ∃ ignored letter rest, text = ignored ++ letter :: rest ∧ (∀ c ∈ ignored, caseIgnorable.Has c) ∧
    ¬ caseIgnorable.Has letter ∧ casedLetters.Has letter

theorem startsCased_iff (text : List Char) : startsCased text = true ↔ MeetsCased text := by
  induction text with
  | nil => simp [startsCased, MeetsCased]
  | cons c text ih =>
    by_cases hIgnored : caseIgnorable.contains c = true
    · have hSkip : startsCased (c :: text) = startsCased text := by
        simp [startsCased, hIgnored]
      rw [hSkip, ih]
      have hHas := CodePoints.contains_iff.mp hIgnored
      constructor
      · rintro ⟨ignored, letter, rest, rfl, hBefore, hLetter⟩
        exact ⟨c :: ignored, letter, rest, rfl, List.forall_mem_cons.mpr ⟨hHas, hBefore⟩, hLetter⟩
      · rintro ⟨ignored, letter, rest, hText, hBefore, hNot, hCased⟩
        cases ignored with
        | nil =>
          obtain ⟨rfl, -⟩ := List.cons.inj hText
          exact absurd hHas hNot
        | cons first ignored =>
          obtain ⟨rfl, rfl⟩ := List.cons.inj hText
          exact ⟨ignored, letter, rest, rfl, (List.forall_mem_cons.mp hBefore).2, hNot, hCased⟩
    · have hStop : startsCased (c :: text) = casedLetters.contains c := by
        simp [startsCased, hIgnored]
      rw [hStop, CodePoints.contains_iff]
      rw [CodePoints.contains_iff] at hIgnored
      constructor
      · exact fun hCased => ⟨[], c, text, rfl, by simp, hIgnored, hCased⟩
      · rintro ⟨ignored, letter, rest, hText, hBefore, -, hCased⟩
        cases ignored with
        | nil =>
          obtain ⟨rfl, -⟩ := List.cons.inj hText
          exact hCased
        | cons first ignored =>
          obtain ⟨rfl, -⟩ := List.cons.inj hText
          exact absurd (hBefore _ List.mem_cons_self) hIgnored

/-- What a character becomes between those before it and those after it. A capital sigma is at the
end of a word when a letter precedes it and none follows. -/
inductive LowerAt (before after : List Char) : Char → List Char → Prop
  | finalSigma (hBefore : MeetsCased before.reverse) (hAfter : ¬ MeetsCased after) :
    LowerAt before after 'Σ' ['ς']
  | sigma (h : MeetsCased before.reverse → MeetsCased after) : LowerAt before after 'Σ' ['σ']
  | dottedI : LowerAt before after 'İ' ['i', Char.ofNat 0x307]
  | simple {c d : Char} (hSigma : c ≠ 'Σ') (hDotted : c ≠ 'İ') (h : SimpleLower c d) :
    LowerAt before after c [d]

theorem lowerAt_iff {before after lowered : List Char} :
    LowerAt before after c lowered ↔ lowered =
      if c = 'Σ' then
        if startsCased before.reverse && !startsCased after then ['ς'] else ['σ']
      else if c = 'İ' then ['i', Char.ofNat 0x307]
      else [lowerSimple c] := by
  have hFinal : (startsCased before.reverse && !startsCased after) = true ↔
      MeetsCased before.reverse ∧ ¬ MeetsCased after := by
    rw [Bool.and_eq_true, Bool.not_eq_true', ← Bool.not_eq_true, startsCased_iff, startsCased_iff]
  constructor
  · intro h
    cases h with
    | finalSigma hBefore hAfter => rw [if_pos rfl, if_pos (hFinal.mpr ⟨hBefore, hAfter⟩)]
    | sigma h => rw [if_pos rfl, if_neg fun hBoth => (hFinal.mp hBoth).2 (h (hFinal.mp hBoth).1)]
    | dottedI => rw [if_neg (by decide), if_pos rfl]
    | simple hSigma hDotted h => rw [if_neg hSigma, if_neg hDotted, simpleLower_iff.mp h]
  · rintro rfl
    split
    · rename_i hSigma
      subst hSigma
      split
      · rename_i hBoth
        exact .finalSigma (hFinal.mp hBoth).1 (hFinal.mp hBoth).2
      · rename_i hNot
        exact .sigma fun hBefore => by_contra fun hAfter => hNot (hFinal.mpr ⟨hBefore, hAfter⟩)
    · rename_i hSigma
      split
      · rename_i hDotted
        subst hDotted
        exact .dottedI
      · rename_i hDotted
        exact .simple hSigma hDotted (simpleLower_lowerSimple c)

/-! ## Texts -/

/-- What the rest of a text becomes, after the characters before it. -/
inductive LoweredFrom : List Char → List Char → List Char → Prop
  | nil {before : List Char} : LoweredFrom before [] []
  | cons {before rest head tail : List Char} {c : Char} (hHead : LowerAt before rest c head)
    (hTail : LoweredFrom (before ++ [c]) rest tail) :
    LoweredFrom before (c :: rest) (head ++ tail)

theorem loweredFrom_iff (before : List Char) {text lowered : List Char} :
    LoweredFrom before.reverse text lowered ↔ lowered = lowerFrom before text := by
  induction text generalizing before lowered with
  | nil =>
    constructor
    · intro h
      cases h
      rfl
    · rintro rfl
      exact .nil
  | cons c text ih =>
    have hTail (tail : List Char) :
        LoweredFrom (before.reverse ++ [c]) text tail ↔ tail = lowerFrom (c :: before) text := by
      rw [← ih (c :: before), List.reverse_cons]
    constructor
    · intro h
      cases h with
      | cons hHead hRest =>
        rw [lowerAt_iff, List.reverse_reverse] at hHead
        rw [hHead, (hTail _).mp hRest]
        rfl
    · rintro rfl
      refine .cons (lowerAt_iff.mpr ?_) ((hTail _).mpr rfl)
      rw [List.reverse_reverse]

/-- A text in lower case: each character has become what it is in its place. -/
def Lowered (text lowered : String) : Prop := LoweredFrom [] text.toList lowered.toList

theorem lowered_iff {text lowered : String} : Lowered text lowered ↔ lowered = toLower text := by
  rw [Lowered, ← List.reverse_nil, loweredFrom_iff, toLower, ← String.toList_inj,
    String.toList_ofList]

end Lineation.Text
