import Mathlib.Data.List.Basic
import Lineation.Text.Quoted

/-!
# Quoted text can be told from what follows it

Texts are written one after another, and a reader has to find where each ends. A way to write values
is prefix free if a value and all that follows it are determined by the characters (`PrefixFree`).

* `PrefixFree.flatMap_append_inj`: values written one after another, up to an end that no value
  starts with.
* `Text.Escaped`: the three forms in which a character stands between double quotes. No two
  characters share a form, and none of them starts with a double quote or holds a newline.
* `Text.prefixFree_quoted`: quoted texts are prefix free.
* `Text.newline_not_mem_quoted`: a quoted text is on one line.

What is printable and what is an extending mark plays no part: it decides which form a character
takes, and each form says which character it is.
-/

namespace Lineation

/-! ## Prefix free writing -/

/-- A written value can be told from all that follows it. -/
def PrefixFree {α : Type} (f : α → List Char) : Prop :=
  ∀ (a b : α) (s t : List Char), f a ++ s = f b ++ t → a = b ∧ s = t

namespace PrefixFree

variable {α β : Type} {f : α → List Char} {g : β → List Char} {c : Char} {s t : List Char}

theorem append_cons_inj {x y : List Char} (hx : c ∉ x) (hy : c ∉ y)
    (h : x ++ c :: s = y ++ c :: t) : x = y ∧ s = t := by
  induction x generalizing y with
  | nil =>
    cases y with
    | nil => exact ⟨rfl, List.tail_eq_of_cons_eq h⟩
    | cons d y =>
      obtain rfl : c = d := List.head_eq_of_cons_eq h
      exact absurd List.mem_cons_self hy
  | cons d x ih =>
    cases y with
    | nil =>
      obtain rfl : d = c := List.head_eq_of_cons_eq h
      exact absurd List.mem_cons_self hx
    | cons e y =>
      obtain rfl : d = e := List.head_eq_of_cons_eq h
      obtain ⟨rfl, rfl⟩ := ih (fun hMem => hx (List.mem_cons_of_mem _ hMem))
        (fun hMem => hy (List.mem_cons_of_mem _ hMem)) (List.tail_eq_of_cons_eq h)
      exact ⟨rfl, rfl⟩

/-- A value is told from what follows by a character that closes it. -/
theorem closed (hf : Function.Injective f) (hc : ∀ a, c ∉ f a) :
    PrefixFree fun a => f a ++ [c] := by
  intro a b s t h
  simp only [List.append_assoc, List.singleton_append] at h
  obtain ⟨hEq, rfl⟩ := append_cons_inj (hc a) (hc b) h
  exact ⟨hf hEq, rfl⟩

theorem prod (hf : PrefixFree f) (hg : PrefixFree g) :
    PrefixFree fun pair : α × β => f pair.1 ++ g pair.2 := by
  rintro ⟨a, b⟩ ⟨a', b'⟩ s t h
  simp only [List.append_assoc] at h
  obtain ⟨rfl, hRest⟩ := hf _ _ _ _ h
  obtain ⟨rfl, rfl⟩ := hg _ _ _ _ hRest
  exact ⟨rfl, rfl⟩

/-- Values one after another, before an end that no value starts with. -/
theorem flatMap_append_inj (hf : PrefixFree f) (hs : ∀ a u, f a ++ u ≠ s) (ht : ∀ a u, f a ++ u ≠ t)
    {as bs : List α} (h : as.flatMap f ++ s = bs.flatMap f ++ t) : as = bs ∧ s = t := by
  induction as generalizing bs with
  | nil =>
    cases bs with
    | nil => exact ⟨rfl, h⟩
    | cons b bs =>
      rw [List.flatMap_cons, List.append_assoc] at h
      exact absurd h.symm (hs b _)
  | cons a as ih =>
    rw [List.flatMap_cons, List.append_assoc] at h
    cases bs with
    | nil => exact absurd h (ht a _)
    | cons b bs =>
      rw [List.flatMap_cons, List.append_assoc] at h
      obtain ⟨rfl, hRest⟩ := hf _ _ _ _ h
      obtain ⟨rfl, rfl⟩ := ih hRest
      exact ⟨rfl, rfl⟩

end PrefixFree

/-! ## Digits -/

theorem not_mem_toDigits {b : Nat} (hb : 1 < b) {c : Char} (h : ∀ d < b, Nat.digitChar d ≠ c)
    (n : Nat) : c ∉ Nat.toDigits b n := by
  induction n using Nat.strongRecOn with
  | ind n ih =>
    rw [Nat.toDigits_eq_if hb]
    split
    · rename_i hn
      simpa using (h n hn).symm
    · have hDiv : n / b < n := Nat.div_lt_self (by omega) hb
      have hMod : n % b < b := Nat.mod_lt _ (by omega)
      simpa using ⟨ih _ hDiv, (h _ hMod).symm⟩

theorem toDigits_injective {b : Nat} (hb : 1 < b)
    (hDigit : ∀ m < b, ∀ n < b, Nat.digitChar m = Nat.digitChar n → m = n) :
    Function.Injective (Nat.toDigits b) := by
  intro m
  induction m using Nat.strongRecOn with
  | ind m ih =>
    intro n h
    rw [Nat.toDigits_eq_if hb, Nat.toDigits_eq_if (n := n) hb] at h
    by_cases hm : m < b <;> by_cases hn : n < b <;> simp only [hm, hn, if_true, if_false] at h
    · exact hDigit m hm n hn (List.head_eq_of_cons_eq h)
    · simpa using congrArg List.length h
    · simpa using congrArg List.length h
    · obtain ⟨hDiv, hMod⟩ := List.append_inj' h rfl
      have hQuotient : m / b = n / b := ih _ (Nat.div_lt_self (by omega) hb) hDiv
      have hRest : m % b = n % b := hDigit _ (Nat.mod_lt _ (by omega)) _ (Nat.mod_lt _ (by omega))
        (List.head_eq_of_cons_eq hMod)
      rw [← Nat.div_add_mod m b, ← Nat.div_add_mod n b, hQuotient, hRest]

namespace Text

/-! ## Escapes -/

/-- The characters that are written as a backslash and a letter or mark of their own. -/
def shortEscapes : List (Char × Char) :=
  [('\x00', '0'), ('\t', 't'), ('\r', 'r'), ('\n', 'n'), ('\\', '\\'), ('"', '"')]

/-- The forms of a character between double quotes. -/
inductive Escaped (c : Char) : List Char → Prop where
  | plain (hBackslash : c ≠ '\\') (hQuote : c ≠ '"') (hNewline : c ≠ '\n') : Escaped c [c]
  | short (letter : Char) (h : (c, letter) ∈ shortEscapes) : Escaped c ['\\', letter]
  | codePoint : Escaped c (escapeCodePoint c)

theorem escaped_escapeChar (c : Char) : Escaped c (escapeChar .quoted c) := by
  unfold escapeChar
  split_ifs with h0 ht hr hn hb hq he hp
  · exact .short '0' (by simp [h0, shortEscapes])
  · exact .short 't' (by simp [ht, shortEscapes])
  · exact .short 'r' (by simp [hr, shortEscapes])
  · exact .short 'n' (by simp [hn, shortEscapes])
  · exact .short '\\' (by simp [hb, shortEscapes])
  · have hQuote : c = '"' := by simpa [EscapeStyle.quoted] using hq
    exact .short c (by simp [hQuote, shortEscapes])
  · exact .codePoint
  · exact .plain hb (by simpa [EscapeStyle.quoted] using hq) hn
  · exact .codePoint

theorem prefixFree_escapeCodePoint : PrefixFree escapeCodePoint := by
  have hDigits : PrefixFree fun c : Char => Nat.toDigits 16 c.toNat ++ ['\x7d'] :=
    PrefixFree.closed (fun a b h => Char.toNat_inj.mp (toDigits_injective (by decide) (by decide) h))
      fun c => not_mem_toDigits (by decide) (by decide) c.toNat
  intro a b s t h
  exact hDigits a b s t (by simpa [escapeCodePoint] using h)

namespace Escaped

variable {a b : Char} {x y s t : List Char}

theorem append_inj (ha : Escaped a x) (hb : Escaped b y) (h : x ++ s = y ++ t) :
    a = b ∧ s = t := by
  have hShort : ∀ p ∈ shortEscapes, p.2 ≠ 'u' ∧ ∀ q ∈ shortEscapes, p.2 = q.2 → p.1 = q.1 := by
    decide
  cases ha with
  | plain hBackslash =>
    cases hb with
    | plain => simpa using h
    | short => exact absurd (List.head_eq_of_cons_eq h) hBackslash
    | codePoint => exact absurd (List.head_eq_of_cons_eq h) hBackslash
  | short letter hLetter =>
    cases hb with
    | plain hBackslash => exact absurd (List.head_eq_of_cons_eq h).symm hBackslash
    | short other hOther =>
      obtain ⟨hEq, hRest⟩ : letter = other ∧ s = t := by simpa using h
      exact ⟨(hShort _ hLetter).2 _ hOther hEq, hRest⟩
    | codePoint =>
      have hEq : letter = 'u' := List.head_eq_of_cons_eq (List.tail_eq_of_cons_eq h)
      exact absurd hEq (hShort _ hLetter).1
  | codePoint =>
    cases hb with
    | plain hBackslash => exact absurd (List.head_eq_of_cons_eq h).symm hBackslash
    | short letter hLetter =>
      have hEq : 'u' = letter := List.head_eq_of_cons_eq (List.tail_eq_of_cons_eq h)
      exact absurd hEq.symm (hShort _ hLetter).1
    | codePoint => exact prefixFree_escapeCodePoint a b s t h

theorem append_ne_quote (h : Escaped a x) (s t : List Char) : x ++ s ≠ '"' :: t := by
  cases h with
  | plain _ hQuote => simpa using fun hEq => absurd hEq hQuote
  | short letter => simp
  | codePoint => simp [escapeCodePoint]

theorem newline_not_mem (h : Escaped a x) : '\n' ∉ x := by
  cases h with
  | plain _ _ hNewline => simpa using hNewline.symm
  | short letter hLetter =>
    have hTable : ∀ p ∈ shortEscapes, '\n' ≠ p.2 := by decide
    simpa using hTable _ hLetter
  | codePoint =>
    have hDigits : '\n' ∉ Nat.toDigits 16 a.toNat :=
      not_mem_toDigits (by decide) (by decide) a.toNat
    simpa [escapeCodePoint] using hDigits

end Escaped

/-! ## Quoted texts -/

theorem prefixFree_escapeChar : PrefixFree (escapeChar .quoted) :=
  fun a b _ _ h => (escaped_escapeChar a).append_inj (escaped_escapeChar b) h

theorem toList_quoted (text : String) :
    (quoted text).toList = '"' :: (text.toList.flatMap (escapeChar .quoted) ++ ['"']) :=
  String.toList_ofList

theorem prefixFree_quoted : PrefixFree fun text => (quoted text).toList := by
  intro a b s t h
  simp only [toList_quoted, List.cons_append, List.append_assoc, List.nil_append,
    List.cons.injEq, true_and] at h
  obtain ⟨hText, hRest⟩ := prefixFree_escapeChar.flatMap_append_inj
    (fun c u => (escaped_escapeChar c).append_ne_quote u s)
    (fun c u => (escaped_escapeChar c).append_ne_quote u t) h
  exact ⟨String.toList_injective hText, List.tail_eq_of_cons_eq hRest⟩

theorem newline_not_mem_quoted (text : String) : '\n' ∉ (quoted text).toList := by
  have hText : '\n' ∉ text.toList.flatMap (escapeChar .quoted) := by
    simpa using fun c _ => (escaped_escapeChar c).newline_not_mem
  simpa [toList_quoted] using hText

end Text

end Lineation
