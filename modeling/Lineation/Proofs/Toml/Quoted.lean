import Mathlib.Data.List.Basic
import Mathlib.Order.MinMax
import Lineation.Toml.Quoted

/-!
# Strings of a configuration file read back

A string that was written in any of the four forms is read as it was, whatever follows it, as long
as no quote does. Between double quotes each character is spelled by itself, and the reader takes
one spelling after the other. Between triple quotes the reader looks ahead for the closing ones, so
that no three quotes in a row may stand in the string: the form with escapes escapes the third, and
the form without is taken only if there is none.

Main statements:
* `readBasic_flatMap_escapeBasic`, `readLiteral_append`, `readMultiBasic_escapeMulti`,
  `readMultiLiteral_append`: what stands between the quotes, form by form;
* `readQuoted_writeQuoted`: a string as it is written.
-/

namespace Lineation.Toml

/-! ## Characters -/

/-- The spellings of a character between double quotes. Only over several lines a newline stands for
itself. -/
inductive Spells (multi : Bool) : Char → List Char → Prop
  | plain {c : Char} (hText : isText c = true) (hQuote : c ≠ '"') (hSlash : c ≠ '\\') :
    Spells multi c [c]
  | newline (h : multi = true) : Spells multi '\n' ['\n']
  | letter {c letter : Char} (h : escape? letter = some c) : Spells multi c ['\\', letter]
  | code {c a b d e : Char} (h : codePoint .shortCode [a, b, d, e] = .ok c) :
    Spells multi c ['\\', 'u', a, b, d, e]

theorem hexValue?_hexDigit {n : Nat} (h : n < 16) : hexValue? (hexDigit n) = some n := by
  revert n
  decide

theorem codePoint_hexDigit (construct : Construct) {c : Char} (h : c.toNat < 256) :
    codePoint construct ['0', '0', hexDigit (c.toNat / 16), hexDigit (c.toNat % 16)] = .ok c := by
  have hZero : hexValue? '0' = some 0 := by decide
  have hHigh := hexValue?_hexDigit (n := c.toNat / 16) (by omega)
  have hLow := hexValue?_hexDigit (n := c.toNat % 16) (by omega)
  have hSum : 16 * (c.toNat / 16) + c.toNat % 16 = c.toNat := Nat.div_add_mod _ _
  have hValid : c.toNat.isValidChar := c.valid
  simp [codePoint, hZero, hHigh, hLow, hSum, hValid, Char.ofNat_toNat]

theorem toNat_lt_of_isControl {c : Char} (h : isControl c = true) : c.toNat < 128 := by
  simp only [isControl, Bool.or_eq_true, Bool.and_eq_true, decide_eq_true_eq, beq_iff_eq] at h
  omega

theorem spells_escapeText {multi : Bool} {c : Char} (hQuote : c ≠ '"') (hLine : c ≠ '\n') :
    Spells multi c (escapeText c) := by
  unfold escapeText
  split_ifs with hBack hTab hFeed hReturn hSlash hControl
  · exact .letter (by rw [hBack]; rfl)
  · exact .letter (by rw [hTab]; rfl)
  · exact .letter (by rw [hFeed]; rfl)
  · exact .letter (by rw [hReturn]; rfl)
  · exact .letter (by rw [hSlash]; rfl)
  · have := toNat_lt_of_isControl hControl
    exact .code (codePoint_hexDigit _ (by omega))
  · exact .plain (by simp [isText, hControl, hLine]) hQuote hSlash

theorem spells_escapeBasic (c : Char) : Spells false c (escapeBasic c) := by
  unfold escapeBasic
  split_ifs with hQuote hLine
  · exact .letter (by rw [hQuote]; rfl)
  · exact .letter (by rw [hLine]; rfl)
  · exact spells_escapeText hQuote hLine

/-- Over several lines a quote stands for itself as well, unless it is the third in a row. -/
theorem escapeMulti_cons (run : Nat) (c : Char) (text : List Char) :
    (c = '"' ∧ run < 2 ∧ escapeMulti run (c :: text) = '"' :: escapeMulti (run + 1) text) ∨
      ∃ spelling, Spells true c spelling ∧
        escapeMulti run (c :: text) = spelling ++ escapeMulti 0 text := by
  rw [escapeMulti]
  split_ifs with hQuote hRun hLine
  · exact .inr ⟨['\\', '"'], .letter (by rw [hQuote]; rfl), rfl⟩
  · exact .inl ⟨hQuote, by omega, rfl⟩
  · exact .inr ⟨['\n'], by rw [hLine]; exact .newline rfl, rfl⟩
  · exact .inr ⟨escapeText c, spells_escapeText hQuote hLine, rfl⟩

namespace Spells

variable {multi : Bool} {c : Char} {cs : List Char}

theorem exists_cons (h : Spells multi c cs) :
    ∃ d tail, cs = d :: tail ∧ d ≠ '"' ∧ d ≠ '\r' ∧ (d = '\n' → c = '\n') := by
  cases h with
  | plain hText hQuote _ =>
    exact ⟨c, [], rfl, hQuote, by rintro rfl; revert hText; decide, id⟩
  | newline _ => exact ⟨'\n', [], rfl, by decide, by decide, id⟩
  | letter _ => exact ⟨'\\', _, rfl, by decide, by decide, nofun⟩
  | code _ => exact ⟨'\\', _, rfl, by decide, by decide, nofun⟩

theorem readBasic (h : Spells false c cs) (read rest : List Char) :
    readBasic read (cs ++ rest) = Toml.readBasic (c :: read) rest := by
  cases h with
  | plain hText hQuote hSlash =>
    rw [List.singleton_append, Toml.readBasic]
    · simp [hText, hSlash]
    all_goals simp_all
  | newline h => cases h
  | letter h =>
    rw [List.cons_append, List.cons_append, List.nil_append]
    unfold escape? at h
    split at h <;> cases h <;> simp [Toml.readBasic, escape?]
  | code h =>
    simp only [List.cons_append, List.nil_append]
    rw [Toml.readBasic, h]

end Spells

/-! ## Strings in a line -/

theorem readBasic_flatMap_escapeBasic (read text rest : List Char) :
    readBasic read (text.flatMap escapeBasic ++ '"' :: rest) =
      .ok (String.ofList (read.reverse ++ text), rest) := by
  induction text generalizing read with
  | nil => simp [readBasic]
  | cons c text ih =>
    rw [List.flatMap_cons, List.append_assoc, (spells_escapeBasic c).readBasic, ih]
    simp

theorem readLiteral_append {text : List Char} (read rest : List Char)
    (h : ∀ c ∈ text, isText c = true ∧ c ≠ '\'') :
    readLiteral read (text ++ '\'' :: rest) = .ok (String.ofList (read.reverse ++ text), rest) := by
  induction text generalizing read with
  | nil => simp [readLiteral]
  | cons c text ih =>
    obtain ⟨hText, hQuote⟩ := h c (by simp)
    rw [List.cons_append, readLiteral, if_pos hText, ih _ fun d hd => h d (by simp [hd])]
    · simp
    · simpa using hQuote

/-! ## Closing quotes -/

theorem closing?_cons_of_ne {quote c : Char} (h : c ≠ quote) (cs : List Char) :
    closing? quote (c :: cs) = none := by
  match cs with
  | [] => rfl
  | [_] => rfl
  | b :: d :: rest => simp [closing?, h]

/-- Where no three quotes are in front of what is left of a string, they are the closing ones only
if nothing but quotes is left. -/
theorem closing?_append {quote : Char} {body rest : List Char}
    (hBody : ¬ List.replicate 3 quote <+: body) (hRest : rest.head? ≠ some quote) :
    closing? quote (body ++ quote :: quote :: quote :: rest) =
      if body.all (· == quote) then some (body.length, rest) else none := by
  have hNext : ∀ d tail, rest = d :: tail → d ≠ quote := by
    rintro d tail rfl rfl
    simp at hRest
  match body with
  | [] =>
    cases rest with
    | nil => simp [closing?]
    | cons d rest => simp [closing?, hNext d rest rfl]
  | [a] =>
    cases rest with
    | nil => by_cases ha : a = quote <;> simp [closing?, ha]
    | cons d rest => by_cases ha : a = quote <;> simp [closing?, ha, hNext d rest rfl]
  | [a, b] =>
    by_cases ha : a = quote <;> by_cases hb : b = quote <;> simp [closing?, ha, hb]
  | a :: b :: c :: body =>
    have hNe : ¬ (a = quote ∧ b = quote ∧ c = quote) := by
      rintro ⟨rfl, rfl, rfl⟩
      exact hBody (by simp [List.replicate_succ])
    have hAll : ¬ (a :: b :: c :: body).all (· == quote) := by
      intro h
      simp only [List.all_cons, Bool.and_eq_true, beq_iff_eq] at h
      exact hNe ⟨h.1, h.2.1, h.2.2.1⟩
    rw [if_neg hAll]
    simp only [List.cons_append, closing?, Bool.and_eq_true, beq_iff_eq]
    rw [if_neg (by simpa [and_assoc] using hNe)]

theorem eq_replicate_of_all_beq {quote : Char} {body : List Char}
    (h : body.all (· == quote) = true) : body = List.replicate body.length quote :=
  List.eq_replicate_of_mem fun c hc => beq_iff_eq.mp (List.all_eq_true.mp h c hc)

/-! ## Strings over several lines, with escapes -/

theorem readMultiBasic_of_closing {cs after : List Char} {extra : Nat}
    (h : closing? '"' cs = some (extra, after)) (folding : Bool) (read : List Char) :
    readMultiBasic folding read cs =
      .ok (String.ofList (List.replicate extra '"' ++ read).reverse, after) := by
  cases cs with
  | nil => cases h
  | cons c cs =>
    rw [readMultiBasic.eq_def]
    simp only [h]

theorem readMultiBasic_text {c : Char} {rest : List Char}
    (hClosing : closing? '"' (c :: rest) = none) (hText : isText c = true) (hSlash : c ≠ '\\')
    (read : List Char) :
    readMultiBasic false read (c :: rest) = readMultiBasic false (c :: read) rest := by
  have hLine : c ≠ '\n' := by rintro rfl; revert hText; decide
  have hReturn : c ≠ '\r' := by rintro rfl; revert hText; decide
  rw [readMultiBasic.eq_def]
  simp [hClosing, hText, hSlash, hLine, hReturn]

/-- No spelling has a blank or a newline after a backslash, so none folds lines. -/
theorem Spells.readMultiBasic {c : Char} {cs : List Char} (h : Spells true c cs)
    (read rest : List Char) :
    readMultiBasic false read (cs ++ rest) = Toml.readMultiBasic false (c :: read) rest := by
  cases h with
  | plain hText hQuote hSlash =>
    exact readMultiBasic_text (closing?_cons_of_ne hQuote _) hText hSlash read
  | newline _ =>
    rw [List.singleton_append, Toml.readMultiBasic.eq_def]
    simp [closing?_cons_of_ne]
  | letter h =>
    rw [List.cons_append, List.cons_append, List.nil_append, Toml.readMultiBasic.eq_def]
    unfold escape? at h
    split at h <;> cases h <;> simp [closing?_cons_of_ne, endsLine, isSpace, escape?]
  | code h =>
    simp only [List.cons_append, List.nil_append]
    rw [Toml.readMultiBasic.eq_def]
    simp [closing?_cons_of_ne, endsLine, isSpace, h]

theorem lt_two_of_replicate_prefix {n run : Nat} {text : List Char}
    (h : List.replicate (n + 1) '"' <+: escapeMulti run text) : run + n < 2 := by
  induction text generalizing n run with
  | nil => simp [escapeMulti, List.replicate_succ] at h
  | cons c text ih =>
    rw [List.replicate_succ] at h
    obtain ⟨-, hRun, hEq⟩ | ⟨spelling, hSpells, hEq⟩ := escapeMulti_cons run c text
    · rw [hEq, List.cons_prefix_cons] at h
      cases n with
      | zero => omega
      | succ n => have := ih h.2; omega
    · obtain ⟨d, tail, rfl, hd, -⟩ := hSpells.exists_cons
      rw [hEq, List.cons_append, List.cons_prefix_cons] at h
      exact absurd h.1.symm hd

theorem not_replicate_prefix_escapeMulti (run : Nat) (text : List Char) :
    ¬ List.replicate 3 '"' <+: escapeMulti run text :=
  fun h => by have := lt_two_of_replicate_prefix h; omega

theorem escapeMulti_eq_of_quotes {run : Nat} {text : List Char}
    (h : (escapeMulti run text).all (· == '"') = true) : escapeMulti run text = text := by
  induction text generalizing run with
  | nil => rfl
  | cons c text ih =>
    obtain ⟨rfl, -, hEq⟩ | ⟨spelling, hSpells, hEq⟩ := escapeMulti_cons run c text
    · rw [hEq, List.all_cons, Bool.and_eq_true] at h
      rw [hEq, ih h.2]
    · obtain ⟨d, tail, rfl, hd, -⟩ := hSpells.exists_cons
      rw [hEq, List.cons_append, List.all_cons, Bool.and_eq_true, beq_iff_eq] at h
      exact absurd h.1 hd

theorem readMultiBasic_escapeMulti_of_quotes {rest text : List Char} {run : Nat}
    (hRest : rest.head? ≠ some '"') (hQuotes : (escapeMulti run text).all (· == '"') = true)
    (read : List Char) :
    readMultiBasic false read (escapeMulti run text ++ '"' :: '"' :: '"' :: rest) =
      .ok (String.ofList (read.reverse ++ text), rest) := by
  have hClosing := closing?_append (not_replicate_prefix_escapeMulti run text) hRest
  rw [if_pos hQuotes] at hClosing
  have hText := escapeMulti_eq_of_quotes hQuotes
  rw [hText] at hQuotes hClosing
  rw [hText, readMultiBasic_of_closing hClosing, List.reverse_append, List.reverse_replicate,
    ← eq_replicate_of_all_beq hQuotes]

theorem readMultiBasic_escapeMulti {rest : List Char} (hRest : rest.head? ≠ some '"')
    (text : List Char) (run : Nat) (read : List Char) :
    readMultiBasic false read (escapeMulti run text ++ '"' :: '"' :: '"' :: rest) =
      .ok (String.ofList (read.reverse ++ text), rest) := by
  induction text generalizing run read with
  | nil => exact readMultiBasic_escapeMulti_of_quotes hRest rfl read
  | cons c text ih =>
    by_cases hQuotes : (escapeMulti run (c :: text)).all (· == '"') = true
    · exact readMultiBasic_escapeMulti_of_quotes hRest hQuotes read
    have hClosing := closing?_append (not_replicate_prefix_escapeMulti run (c :: text)) hRest
    rw [if_neg hQuotes] at hClosing
    -- what is left has more than quotes, so that a quote in front is not a closing one
    obtain ⟨rfl, -, hEq⟩ | ⟨spelling, hSpells, hEq⟩ := escapeMulti_cons run c text
    · rw [hEq, List.cons_append] at hClosing ⊢
      rw [readMultiBasic_text hClosing (by decide) (by decide), ih]
      simp
    · rw [hEq, List.append_assoc, hSpells.readMultiBasic, ih]
      simp

/-! ## Strings over several lines, without escapes -/

theorem readMultiLiteral_of_closing {cs after : List Char} {extra : Nat}
    (h : closing? '\'' cs = some (extra, after)) (read : List Char) :
    readMultiLiteral read cs =
      .ok (String.ofList (List.replicate extra '\'' ++ read).reverse, after) := by
  cases cs with
  | nil => cases h
  | cons c cs =>
    rw [readMultiLiteral.eq_def]
    simp only [h]

theorem readMultiLiteral_of_not_closing {c : Char} {rest : List Char}
    (hClosing : closing? '\'' (c :: rest) = none) (hControl : isControl c = false)
    (read : List Char) :
    readMultiLiteral read (c :: rest) = readMultiLiteral (c :: read) rest := by
  have hReturn : c ≠ '\r' := by rintro rfl; revert hControl; decide
  have hLine : isText c = true ∨ c = '\n' := by
    simp only [isText, hControl, Bool.not_false, Bool.true_and, bne_iff_ne]
    exact (em (c = '\n')).symm
  rw [readMultiLiteral.eq_def]
  simp [hClosing, hLine, hReturn]

theorem le_longestRun (quote : Char) (run : Nat) (text : List Char) :
    run ≤ longestRun quote run text := by
  induction text generalizing run with
  | nil => exact le_refl run
  | cons c text ih =>
    rw [longestRun]
    split_ifs
    · exact (Nat.le_succ run).trans (ih (run + 1))
    · exact le_max_left _ _

theorem longestRun_mono (quote : Char) (text : List Char) {m n : Nat} (h : m ≤ n) :
    longestRun quote m text ≤ longestRun quote n text := by
  induction text generalizing m n with
  | nil => exact h
  | cons c text ih =>
    rw [longestRun, longestRun]
    split_ifs
    · exact ih (Nat.succ_le_succ h)
    · exact max_le_max h (le_refl _)

theorem longestRun_le_cons (quote c : Char) (text : List Char) :
    longestRun quote 0 text ≤ longestRun quote 0 (c :: text) := by
  rw [longestRun]
  split_ifs
  · exact longestRun_mono quote text (Nat.zero_le _)
  · exact le_max_right _ _

theorem le_longestRun_of_replicate_prefix {quote : Char} {n run : Nat} {text : List Char}
    (h : List.replicate n quote <+: text) : run + n ≤ longestRun quote run text := by
  induction n generalizing run text with
  | zero => exact le_longestRun quote run text
  | succ n ih =>
    cases text with
    | nil => simp [List.replicate_succ] at h
    | cons c text =>
      rw [List.replicate_succ, List.cons_prefix_cons] at h
      rw [longestRun, if_pos h.1.symm]
      have hLe : run + 1 + n ≤ longestRun quote (run + 1) text := ih h.2
      omega

theorem readMultiLiteral_append {text rest : List Char} (hRest : rest.head? ≠ some '\'')
    (hControl : ∀ c ∈ text, isControl c = false) (hRun : longestRun '\'' 0 text ≤ 2)
    (read : List Char) :
    readMultiLiteral read (text ++ '\'' :: '\'' :: '\'' :: rest) =
      .ok (String.ofList (read.reverse ++ text), rest) := by
  induction text generalizing read with
  | nil =>
    have hBody : ¬ List.replicate 3 '\'' <+: [] := by simp [List.replicate_succ]
    have hClosing := closing?_append hBody hRest
    rw [List.nil_append, if_pos List.all_nil] at hClosing
    rw [List.nil_append, readMultiLiteral_of_closing hClosing]
    simp
  | cons c text ih =>
    have hBody : ¬ List.replicate 3 '\'' <+: c :: text := by
      intro h
      have hLe : 0 + 3 ≤ longestRun '\'' 0 (c :: text) := le_longestRun_of_replicate_prefix h
      omega
    have hClosing := closing?_append hBody hRest
    split_ifs at hClosing with hQuotes
    · rw [readMultiLiteral_of_closing hClosing, List.reverse_append, List.reverse_replicate,
        ← eq_replicate_of_all_beq hQuotes]
    · rw [List.cons_append] at hClosing ⊢
      rw [readMultiLiteral_of_not_closing hClosing (hControl c (by simp)),
        ih (fun d hd => hControl d (by simp [hd])) ((longestRun_le_cons _ c text).trans hRun)]
      simp

/-! ## The four forms -/

/-- What a form needs of a text that is written in it without escapes. -/
def QuotedForm.Fits : QuotedForm → List Char → Prop
  | .literal, text => text ≠ [] ∧ ∀ c ∈ text, isText c = true ∧ c ≠ '\''
  | .multiLiteral, text => (∀ c ∈ text, isControl c = false) ∧ longestRun '\'' 0 text ≤ 2
  | .basic, _ | .multiBasic, _ => True

theorem quotedForm_fits (text : List Char) : (quotedForm text).Fits text := by
  unfold quotedForm
  split_ifs with hControl _ hPlain hLiteral _ hRun
  · trivial
  · trivial
  · trivial
  · simp only [Bool.and_eq_true, Bool.not_eq_true', List.contains_eq_mem, decide_eq_false_iff_not]
      at hLiteral
    refine ⟨?_, fun c hc => ⟨?_, ?_⟩⟩
    · rintro rfl
      exact hPlain rfl
    · have hLine : c ≠ '\n' := fun h => hLiteral.2 (h ▸ hc)
      have hNone : isControl c = false := by
        simpa using fun h => hControl (List.any_eq_true.mpr ⟨c, hc, h⟩)
      simp [isText, hNone, hLine]
    · exact fun h => hLiteral.1 (h ▸ hc)
  · trivial
  · exact ⟨by simpa using hControl, hRun⟩
  · trivial
  · trivial

theorem dropNewline_append {lead : Bool} {body : List Char}
    (h : lead = false → body.head? ≠ some '\n' ∧ body.head? ≠ some '\r') :
    dropNewline ((if lead then ['\n'] else []) ++ body) = body := by
  cases lead with
  | true => rfl
  | false =>
    obtain ⟨hLine, hReturn⟩ := h rfl
    cases body with
    | nil => rfl
    | cons c body =>
      rw [if_neg (by decide), List.nil_append, dropNewline]
      · rintro tail hEq
        exact hLine (by rw [hEq]; rfl)
      · rintro tail hEq
        exact hReturn (by rw [hEq]; rfl)

theorem head?_escapeMulti_append {text : List Char} (h : '\n' ∉ text) (rest : List Char) :
    (escapeMulti 0 text ++ '"' :: rest).head? ≠ some '\n' ∧
      (escapeMulti 0 text ++ '"' :: rest).head? ≠ some '\r' := by
  cases text with
  | nil => exact ⟨by simp [escapeMulti], by simp [escapeMulti]⟩
  | cons c text =>
    have hc : c ≠ '\n' := fun hc => h (by simp [hc])
    obtain ⟨-, -, hEq⟩ | ⟨spelling, hSpells, hEq⟩ := escapeMulti_cons 0 c text
    · simp [hEq]
    · obtain ⟨d, tail, rfl, -, hReturn, hLine⟩ := hSpells.exists_cons
      simpa [hEq, hReturn] using fun hd => hc (hLine hd)

theorem head?_append_of_not_control {text : List Char} (h : '\n' ∉ text)
    (hControl : ∀ c ∈ text, isControl c = false) (rest : List Char) :
    (text ++ '\'' :: rest).head? ≠ some '\n' ∧ (text ++ '\'' :: rest).head? ≠ some '\r' := by
  cases text with
  | nil => exact ⟨by simp, by simp⟩
  | cons c text =>
    have hc : c ≠ '\n' := fun hc => h (by simp [hc])
    have hReturn : c ≠ '\r' := by
      rintro rfl
      exact absurd (hControl '\r' (by simp)) (by decide)
    simp [hc, hReturn]

theorem readQuoted_double {cs : List Char} (h : ∀ tail, cs ≠ '"' :: '"' :: tail) :
    readQuoted ('"' :: cs) = .begun (readBasic [] cs) := by
  rw [readQuoted]
  exact h

theorem readQuoted_single {cs : List Char} (h : ∀ tail, cs ≠ '\'' :: '\'' :: tail) :
    readQuoted ('\'' :: cs) = .begun (readLiteral [] cs) := by
  rw [readQuoted]
  exact h

theorem readQuoted_writeAs {form : QuotedForm} {text : List Char} (hFits : form.Fits text)
    {rest : List Char} (hDouble : rest.head? ≠ some '"') (hSingle : rest.head? ≠ some '\'') :
    readQuoted (writeAs form text ++ rest) = .ok (String.ofList text, rest) := by
  cases form with
  | basic =>
    have hOpening : ∀ tail, text.flatMap escapeBasic ++ '"' :: rest ≠ '"' :: '"' :: tail := by
      intro tail hEq
      cases text with
      | nil => simp_all
      | cons c text =>
        obtain ⟨d, cs, hSpelling, hd, -⟩ := (spells_escapeBasic c).exists_cons
        rw [List.flatMap_cons, hSpelling] at hEq
        simp_all
    have hRead := readBasic_flatMap_escapeBasic [] text rest
    simp only [writeAs, List.cons_append, List.append_assoc, List.nil_append]
    rw [readQuoted_double hOpening, hRead]
    rfl
  | literal =>
    obtain ⟨hNe, hText⟩ := hFits
    have hOpening : ∀ tail, text ++ '\'' :: rest ≠ '\'' :: '\'' :: tail := by
      intro tail hEq
      cases text with
      | nil => exact hNe rfl
      | cons c text => exact (hText c (by simp)).2 (List.cons.inj hEq).1
    have hRead := readLiteral_append [] rest hText
    simp only [writeAs, List.cons_append, List.append_assoc, List.nil_append]
    rw [readQuoted_single hOpening, hRead]
    rfl
  | multiBasic =>
    simp only [writeAs, List.cons_append, List.append_assoc, List.nil_append]
    rw [readQuoted, dropNewline_append, readMultiBasic_escapeMulti hDouble]
    · rfl
    · exact fun h => head?_escapeMulti_append (by simpa using h) _
  | multiLiteral =>
    obtain ⟨hControl, hRun⟩ := hFits
    simp only [writeAs, List.cons_append, List.append_assoc, List.nil_append]
    rw [readQuoted, dropNewline_append, readMultiLiteral_append hSingle hControl hRun]
    · rfl
    · exact fun h => head?_append_of_not_control (by simpa using h) hControl _

theorem readQuoted_writeQuoted (text : String) {rest : List Char}
    (hDouble : rest.head? ≠ some '"') (hSingle : rest.head? ≠ some '\'') :
    readQuoted ((writeQuoted text).toList ++ rest) = .ok (text, rest) := by
  rw [writeQuoted, String.toList_ofList, readQuoted_writeAs (quotedForm_fits _) hDouble hSingle,
    String.ofList_toList]

end Lineation.Toml
