import Mathlib.Data.List.Forall2
import Mathlib.Data.Nat.ModEq
import Mathlib.Data.Nat.Prime.Basic
import Lineation.Token

/-!
# Texts that differ in one character

Both fingerprints tell such texts apart, so that tokens with these texts are unequal
(`Token.separated_by_one_character`). One step of a fingerprint is injective in each of its two
arguments (`Fingerprint.Separating`): exclusive or is, and so is the product with an odd factor, in
any width. The characters before the one that differs lead to one hash, that one to two hashes, and
those behind it keep the two apart, however many they are.

Nothing is said of texts that differ in more than one character: in the narrow fingerprint two of
them can make up for one another.
-/

namespace Lineation

namespace Text

/-- The number of positions at which two texts differ, as far as both go. -/
def differences (as bs : List Char) : Nat :=
  (as.zip bs).countP fun (a, b) => a ≠ b

variable {as bs : List Char} {a b : Char}

theorem differences_cons (a b : Char) (as bs : List Char) :
    differences (a :: as) (b :: bs) = differences as bs + if a = b then 0 else 1 := by
  by_cases h : a = b <;> simp [differences, h]

theorem eq_of_differences_eq_zero (hLength : as.length = bs.length)
    (h : differences as bs = 0) : as = bs := by
  rw [← List.forall₂_eq_eq_eq, List.forall₂_iff_zip]
  refine ⟨hLength, fun {a b} hMem => ?_⟩
  simpa using List.countP_eq_zero.mp h (a, b) hMem

/-- Texts that differ once do so at their first character and nowhere else, or behind it. -/
theorem differences_cons_eq_one (hLength : as.length = bs.length)
    (h : differences (a :: as) (b :: bs) = 1) :
    (a ≠ b ∧ as = bs) ∨ (a = b ∧ differences as bs = 1) := by
  rw [differences_cons] at h
  by_cases hHead : a = b
  · exact Or.inr ⟨hHead, by simpa [hHead] using h⟩
  · refine Or.inl ⟨hHead, eq_of_differences_eq_zero hLength ?_⟩
    simpa [hHead] using h

end Text

namespace Fingerprint

/-! ## One step and all steps -/

/-- A step that forgets neither the hash it starts from nor the character it mixes in. -/
structure Separating {σ : Type} (mix : σ → Char → σ) : Prop where
  hash : ∀ c, Function.Injective fun hash => mix hash c
  char : ∀ hash, Function.Injective (mix hash)

namespace Separating

variable {σ : Type} {mix : σ → Char → σ}

theorem foldl_injective (hMix : Separating mix) (text : List Char) :
    Function.Injective fun hash => text.foldl mix hash := by
  induction text with
  | nil => exact Function.injective_id
  | cons c text ih => exact ih.comp (hMix.hash c)

/-- Texts that differ at one position lead from one hash to two. -/
theorem foldl_ne (hMix : Separating mix) {as bs : List Char} (hLength : as.length = bs.length)
    (hOne : Text.differences as bs = 1) (hash : σ) : as.foldl mix hash ≠ bs.foldl mix hash := by
  -- While the heads agree both texts go on from one hash. Behind the heads that differ the texts
  -- are one, and it keeps apart whatever it starts from.
  induction as generalizing bs hash with
  | nil => simp [Text.differences] at hOne
  | cons a as ih =>
    cases bs with
    | nil => cases hLength
    | cons b bs =>
      rw [List.foldl_cons, List.foldl_cons]
      have hRest : as.length = bs.length := Nat.succ.inj hLength
      rcases Text.differences_cons_eq_one hRest hOne with ⟨hNe, rfl⟩ | ⟨rfl, hOneBehind⟩
      · exact (hMix.foldl_injective as).ne ((hMix.char hash).ne hNe)
      · exact ih hRest hOneBehind (mix hash a)

/-- A step that another one simulates through an injective view separates if the other does. -/
theorem of_view {τ : Type} {other : τ → Char → τ} (hOther : Separating other) {view : σ → τ}
    (hView : Function.Injective view) (hStep : ∀ hash c, view (mix hash c) = other (view hash) c) :
    Separating mix where
  hash c x y h := by
    apply hView
    apply hOther.hash c
    simp only [← hStep]
    exact congrArg view h
  char hash c d h := by
    apply hOther.char (view hash)
    rw [← hStep, ← hStep]
    exact congrArg view h

end Separating

/-! ## The two steps -/

/-- Modulo a power of two an odd factor can be cancelled. -/
theorem mul_injective_of_odd {w : Nat} {factor : BitVec w} (hOdd : Odd factor.toNat) :
    Function.Injective fun x : BitVec w => x * factor := by
  intro x y h
  have hMod : x.toNat * factor.toNat ≡ y.toNat * factor.toNat [MOD 2 ^ w] := by
    rw [Nat.ModEq, ← BitVec.toNat_mul, ← BitVec.toNat_mul]
    exact congrArg BitVec.toNat h
  have hCoprime : Nat.Coprime (2 ^ w) factor.toNat :=
    (Nat.coprime_two_left.mpr hOdd).pow_left w
  have hCancel : x.toNat ≡ y.toNat [MOD 2 ^ w] := hMod.cancel_right_of_coprime hCoprime
  exact BitVec.eq_of_toNat_eq (hCancel.eq_of_lt_of_lt x.isLt y.isLt)

/-- The step of a fingerprint, in any width that has room for the code points. -/
theorem separating_xor_mul {w : Nat} {code : Char → BitVec w} {factor : BitVec w}
    (hCode : Function.Injective code) (hOdd : Odd factor.toNat) :
    Separating fun hash c => (hash ^^^ code c) * factor where
  hash c _ _ h := (BitVec.xor_left_inj (code c)).mp (mul_injective_of_odd hOdd h)
  char hash _ _ h := hCode ((BitVec.xor_right_inj hash).mp (mul_injective_of_odd hOdd h))

theorem separating_mix64 : Separating mix64 := by
  have hCode : Function.Injective fun c : Char => c.val.toUInt64.toBitVec := by
    intro c d h
    exact Char.ext (UInt32.toUInt64_inj.mp (UInt64.toBitVec_inj.mp h))
  have hOdd : Odd prime64.toBitVec.toNat := by decide
  exact (separating_xor_mul hCode hOdd).of_view (fun _ _ => UInt64.toBitVec_inj.mp)
    fun _ _ => rfl

theorem separating_mix32 : Separating mix32 := by
  have hCode : Function.Injective fun c : Char => c.val.toBitVec := by
    intro c d h
    exact Char.ext (UInt32.toBitVec_inj.mp h)
  have hOdd : Odd prime32.toBitVec.toNat := by decide
  exact (separating_xor_mul hCode hOdd).of_view (fun _ _ => UInt32.toBitVec_inj.mp)
    fun _ _ => rfl

variable {a b : String}

theorem wide_ne (hLength : a.length = b.length)
    (hOne : Text.differences a.toList b.toList = 1) : wide a ≠ wide b :=
  separating_mix64.foldl_ne hLength hOne basis64

theorem narrow_ne (hLength : a.length = b.length)
    (hOne : Text.differences a.toList b.toList = 1) : narrow a ≠ narrow b :=
  separating_mix32.foldl_ne hLength hOne basis32

end Fingerprint

namespace Token

/-! ## Tokens -/

/-- Texts of one length that differ at exactly one position have different fingerprints in both
widths, and under the default naming tokens with these texts are unequal. Tokens of one character
have one identifier only if the character is the same. -/
theorem separated_by_one_character :
    (∀ a b : String, a.length = b.length → Text.differences a.toList b.toList = 1 →
      Fingerprint.wide a ≠ Fingerprint.wide b ∧ Fingerprint.narrow a ≠ Fingerprint.narrow b ∧
        (({ text := a } : Token) == { text := b }) = false) ∧
      ∀ c d : Char, ({ text := String.singleton c } : Token).id =
        ({ text := String.singleton d } : Token).id ↔ c = d := by
  refine ⟨fun a b hLength hOne => ⟨?_, ?_, ?_⟩, fun c d => ⟨fun hId => ?_, ?_⟩⟩
  · exact Fingerprint.wide_ne hLength hOne
  · exact Fingerprint.narrow_ne hLength hOne
  · rw [Bool.eq_false_iff, Ne, beq_iff]
    exact Fingerprint.wide_ne hLength hOne
  · by_contra hNe
    refine Fingerprint.wide_ne ?_ ?_ hId
    · simp
    · simp [Text.differences, hNe]
  · rintro rfl
    rfl

/-- The character that differs stands between others, and only the last bits of its code do. -/
theorem separated_smileys :
    ("let 😀 = 1;".length = "let 😁 = 1;".length ∧
        Text.differences "let 😀 = 1;".toList "let 😁 = 1;".toList = 1) ∧
      Fingerprint.wide "let 😀 = 1;" ≠ Fingerprint.wide "let 😁 = 1;" ∧
      Fingerprint.narrow "let 😀 = 1;" ≠ Fingerprint.narrow "let 😁 = 1;" ∧
      (({ text := "let 😀 = 1;" } : Token) == { text := "let 😁 = 1;" }) = false :=
  have hLength : "let 😀 = 1;".length = "let 😁 = 1;".length := by decide
  have hOne : Text.differences "let 😀 = 1;".toList "let 😁 = 1;".toList = 1 := by decide
  ⟨⟨hLength, hOne⟩, separated_by_one_character.1 _ _ hLength hOne⟩

end Token

/-- Two characters that differ make up for one another. -/
example : Text.differences "舩!".toList "弮靔".toList = 2 ∧
    Fingerprint.narrow "舩!" = Fingerprint.narrow "弮靔" := by decide

end Lineation
