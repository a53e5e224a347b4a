import Lineation.Proofs.Toml.Quoted
import Lineation.Toml.Reader

/-!
# Configuration files read back

The part of the format that is written: a file of lines, each an assignment of a string or of an
array of strings to a bare name, or the header of one more element of an array of tables, with empty
lines between them. Such a file is read as the statements on its lines, one by one, and the fuel
that `parse` has is enough for it.

Main statements:
* `Assignable.readValue`: a value as it is written;
* `Line.readStatement`: a line is read as its statement;
* `Written.parse`: a file is read as its statements, if they can take effect.
-/

namespace Lineation.Toml

/-! ## Bare names -/

/-- A name that needs no quotes. -/
structure Bare (name : String) : Prop where
  ne_nil : name.toList ≠ []
  all : ∀ c ∈ name.toList, isNameChar c = true

instance (name : String) : Decidable (Bare name) :=
  decidable_of_iff (name.toList ≠ [] ∧ name.toList.all isNameChar = true)
    ⟨fun h => ⟨h.1, List.all_eq_true.mp h.2⟩, fun h => ⟨h.ne_nil, List.all_eq_true.mpr h.all⟩⟩

theorem ne_of_class {p : Char → Bool} {c d : Char} (hc : p c = true) (hd : p d = false) :
    c ≠ d :=
  ne_of_apply_ne p (by simp [hc, hd])

theorem Bare.exists_cons {name : String} (h : Bare name) :
    ∃ c cs, name.toList = c :: cs ∧ isNameChar c = true := by
  obtain ⟨c, cs, hName⟩ := List.exists_cons_of_ne_nil h.ne_nil
  exact ⟨c, cs, hName, h.all c (by simp [hName])⟩

theorem isSpace_eq_false {c : Char} (hBlank : c ≠ ' ') (hTab : c ≠ '\t') :
    isSpace c = false := by
  simp [isSpace, hBlank, hTab]

theorem skipSpace_cons_of_not_space {c : Char} (h : isSpace c = false) (cs : List Char) :
    skipSpace (c :: cs) = c :: cs := by
  rw [skipSpace, List.dropWhile_cons_of_neg (by simp [h])]

theorem skipSpace_cons_space (cs : List Char) : skipSpace (' ' :: cs) = skipSpace cs := by
  rw [skipSpace, List.dropWhile_cons_of_pos (by decide), skipSpace]

theorem readName_bare {name : String} (h : Bare name) {d : Char} (hd : isNameChar d = false)
    (tail : List Char) : readName (name.toList ++ d :: tail) = .ok (name, d :: tail) := by
  obtain ⟨c, cs, hName, hc⟩ := h.exists_cons
  have hDouble : c ≠ '"' := ne_of_class hc (by decide)
  have hSingle : c ≠ '\'' := ne_of_class hc (by decide)
  have hTake : (name.toList ++ d :: tail).takeWhile isNameChar = name.toList := by
    rw [List.takeWhile_append_of_pos h.all, List.takeWhile_cons_of_neg (by simp [hd]),
      List.append_nil]
  have hDrop : (name.toList ++ d :: tail).drop name.toList.length = d :: tail := by simp
  unfold readName
  split
  · simp_all
  · simp_all
  · rw [hTake, if_neg (by simp [hName]), hDrop, String.ofList_toList]

theorem readKey_bare {name : String} (h : Bare name) {d e : Char} (hd : isNameChar d = false)
    {tail rest : List Char} (hTail : skipSpace (d :: tail) = e :: rest) (he : e ≠ '.')
    (fuel : Nat) : readKey fuel (name.toList ++ d :: tail) = .ok (⟨[], name⟩, e :: rest) := by
  obtain ⟨c, cs, hName, hc⟩ := h.exists_cons
  have hBlank : c ≠ ' ' := ne_of_class hc (by decide)
  have hTab : c ≠ '\t' := ne_of_class hc (by decide)
  have hSkip : skipSpace (name.toList ++ d :: tail) = name.toList ++ d :: tail := by
    rw [hName, List.cons_append, skipSpace_cons_of_not_space (isSpace_eq_false hBlank hTab)]
  have hNames : readNames fuel [] name (e :: rest) = .ok (⟨[], name⟩, e :: rest) := by
    cases fuel with
    | zero => rfl
    | succ fuel =>
      rw [readNames]
      · rfl
      · rintro _ hEq
        exact he (List.cons.inj hEq).1
  simp only [readKey, hSkip, readName_bare h hd, hTail, hNames]
  rfl

/-! ## Values -/

/-- The values that are written, and their spelling. -/
inductive Assignable : Value → String → Prop
  | text (text : String) : Assignable (.string text) (writeQuoted text)
  | texts (texts : List String) :
    Assignable (.array (texts.map .string)) ("[" ++ ", ".intercalate (texts.map writeQuoted) ++ "]")

theorem exists_writeQuoted_cons (text : String) :
    ∃ quote tail, (writeQuoted text).toList = quote :: tail ∧ (quote = '"' ∨ quote = '\'') := by
  unfold writeQuoted writeAs
  cases quotedForm text.toList <;> simp

theorem readValue_writeQuoted (text : String) {d : Char} (hd : d ≠ '"' ∧ d ≠ '\'')
    (rest : List Char) (fuel depth : Nat) :
    readValue (fuel + 1) depth ((writeQuoted text).toList ++ d :: rest) =
      .ok (.string text, d :: rest) := by
  have hDouble : (d :: rest).head? ≠ some '"' := by simpa using hd.1
  have hSingle : (d :: rest).head? ≠ some '\'' := by simpa using hd.2
  have hRead := readQuoted_writeQuoted text hDouble hSingle
  obtain ⟨quote, tail, hCons, hQuote⟩ := exists_writeQuoted_cons text
  rw [hCons, List.cons_append] at hRead ⊢
  rcases hQuote with rfl | rfl <;> rw [readValue, hRead] <;> rfl

theorem skipFiller?_writeQuoted (text : String) (rest : List Char) :
    skipFiller? false ((writeQuoted text).toList ++ rest) =
      some ((writeQuoted text).toList ++ rest) := by
  obtain ⟨quote, tail, hCons, hQuote⟩ := exists_writeQuoted_cons text
  rw [hCons, List.cons_append]
  rcases hQuote with rfl | rfl <;> rfl

theorem readElements_space (fuel depth : Nat) (read : List Value) (cs : List Char) :
    readElements fuel depth read (' ' :: cs) = readElements fuel depth read cs := by
  cases fuel with
  | zero => rfl
  | succ fuel => rw [readElements, readElements]; rfl

theorem readElements_writeQuoted (text : String) {d : Char} (hd : d = ',' ∨ d = ']')
    (rest : List Char) (fuel depth : Nat) (read : List Value) :
    readElements (fuel + 2) depth read ((writeQuoted text).toList ++ d :: rest) =
      if d = ',' then readElements (fuel + 1) depth (.string text :: read) rest
      else .ok (.array (.string text :: read).reverse, rest) := by
  have hQuotes : d ≠ '"' ∧ d ≠ '\'' := by rcases hd with rfl | rfl <;> decide
  have hSkip := skipFiller?_writeQuoted text (d :: rest)
  have hValue := readValue_writeQuoted text hQuotes rest fuel depth
  obtain ⟨quote, tail, hCons, hQuote⟩ := exists_writeQuoted_cons text
  rw [hCons, List.cons_append] at hSkip hValue ⊢
  rw [readElements, hSkip]
  rcases hQuote with rfl | rfl <;> rcases hd with rfl | rfl <;>
    simp [hValue, skipFiller?, isSpace]

theorem readElements_texts (texts : List String) {fuel : Nat} (hFuel : texts.length < fuel)
    (depth : Nat) (read : List Value) (rest : List Char) :
    readElements fuel depth read
        ((", ".intercalate (texts.map writeQuoted)).toList ++ ']' :: rest) =
      .ok (.array (read.reverse ++ texts.map .string), rest) := by
  induction texts generalizing fuel read with
  | nil =>
    obtain ⟨fuel, rfl⟩ : ∃ n, fuel = n + 1 := ⟨fuel - 1, by omega⟩
    simp [readElements, skipFiller?, isSpace]
  | cons text texts ih =>
    rw [List.length_cons] at hFuel
    -- one for the array and one for the element, which is taken even if no other follows
    obtain ⟨fuel, rfl⟩ : ∃ n, fuel = n + 2 := ⟨fuel - 2, by omega⟩
    cases texts with
    | nil =>
      rw [List.map_singleton, String.intercalate_singleton,
        readElements_writeQuoted text (.inr rfl), if_neg (by decide)]
      simp
    | cons next texts =>
      have hLess : (next :: texts).length < fuel + 1 := by omega
      have hRead := ih hLess (.string text :: read)
      have hComma : (", " : String).toList = [',', ' '] := by simp
      rw [List.map_cons, List.map_cons, String.intercalate_cons_cons, ← List.map_cons]
      simp only [String.toList_append, List.append_assoc, hComma, List.cons_append, List.nil_append]
      rw [readElements_writeQuoted text (.inl rfl), if_pos rfl, readElements_space, hRead]
      simp

theorem Assignable.exists_cons {value : Value} {text : String} (h : Assignable value text) :
    ∃ c cs, text.toList = c :: cs ∧ isSpace c = false := by
  cases h with
  | text text =>
    obtain ⟨quote, tail, hCons, hQuote⟩ := exists_writeQuoted_cons text
    exact ⟨quote, tail, hCons, by rcases hQuote with rfl | rfl <;> rfl⟩
  | texts texts => exact ⟨'[', _, by simp; rfl, rfl⟩

theorem length_writeQuoted_pos (text : String) : 0 < (writeQuoted text).toList.length := by
  obtain ⟨quote, tail, hCons, -⟩ := exists_writeQuoted_cons text
  rw [hCons]
  exact Nat.succ_pos _

theorem length_le_length_intercalate (texts : List String) :
    texts.length ≤ (", ".intercalate (texts.map writeQuoted)).toList.length := by
  induction texts with
  | nil => exact Nat.zero_le _
  | cons text texts ih =>
    have hPos := length_writeQuoted_pos text
    cases texts with
    | nil =>
      rw [List.map_singleton, String.intercalate_singleton]
      exact hPos
    | cons next texts =>
      rw [List.map_cons, List.map_cons, String.intercalate_cons_cons, ← List.map_cons,
        String.toList_append, String.toList_append, List.length_append, List.length_append,
        List.length_cons]
      omega

theorem Assignable.readValue {value : Value} {text : String} (h : Assignable value text)
    {fuel : Nat} (hFuel : text.toList.length ≤ fuel) (rest : List Char) :
    readValue fuel 0 (text.toList ++ '\n' :: rest) = .ok (value, '\n' :: rest) := by
  cases h with
  | text text =>
    have hPos := length_writeQuoted_pos text
    obtain ⟨fuel, rfl⟩ : ∃ n, fuel = n + 1 := ⟨fuel - 1, by omega⟩
    exact readValue_writeQuoted text (by decide) rest fuel 0
  | texts texts =>
    have hLength := length_le_length_intercalate texts
    have hOpening : ("[" : String).toList = ['['] := by simp
    have hClosing : ("]" : String).toList = [']'] := by simp
    rw [String.toList_append, String.toList_append, hOpening, hClosing, List.length_append,
      List.length_append, List.length_singleton, List.length_singleton] at hFuel
    obtain ⟨fuel, rfl⟩ : ∃ n, fuel = n + 1 := ⟨fuel - 1, by omega⟩
    have hLess : texts.length < fuel := by omega
    have hRead := readElements_texts texts hLess 1 [] ('\n' :: rest)
    simp only [String.toList_append, List.append_assoc, hOpening, hClosing, List.cons_append,
      List.nil_append]
    rw [Toml.readValue, if_pos (by decide), hRead]
    rfl

/-! ## Lines -/

/-- Characters that a line starts with. -/
def isLineStart (c : Char) : Bool :=
  isNameChar c || c == '['

/-- The statements that are written, and their lines. -/
inductive Line : Statement → String → Prop
  | assign {name text : String} {value : Value} (hName : Bare name)
    (hValue : Assignable value text) :
    Line (.assign ⟨[], name⟩ value) (name ++ " = " ++ text)
  | elementHeader {name : String} (hName : Bare name) :
    Line (.elementHeader ⟨[], name⟩) ("[[" ++ name ++ "]]")

theorem readAssignment_bare {name text : String} {value : Value} (hName : Bare name)
    (hValue : Assignable value text) {fuel : Nat} (hFuel : text.toList.length ≤ fuel)
    (rest : List Char) :
    readAssignment fuel (name.toList ++ ' ' :: '=' :: ' ' :: (text.toList ++ '\n' :: rest)) =
      .ok (.assign ⟨[], name⟩ value, rest) := by
  obtain ⟨c, cs, hCons, hSpace⟩ := hValue.exists_cons
  have hSkip : skipSpace (' ' :: (text.toList ++ '\n' :: rest)) = text.toList ++ '\n' :: rest := by
    rw [skipSpace_cons_space, hCons, List.cons_append, skipSpace_cons_of_not_space hSpace]
  have hBlank : ∀ cs, skipSpace (' ' :: '=' :: cs) = '=' :: cs := fun cs => rfl
  rw [readAssignment, readKey_bare hName (by decide) (hBlank _) (by decide)]
  simp only [hSkip, hValue.readValue hFuel]
  rfl

theorem readHeader_bare {name : String} (hName : Bare name) (fuel : Nat) (rest : List Char) :
    readHeader fuel [']', ']'] .elementHeader (name.toList ++ ']' :: ']' :: '\n' :: rest) =
      .ok (.elementHeader ⟨[], name⟩, rest) := by
  have hBracket : ∀ cs, skipSpace (']' :: cs) = ']' :: cs := fun cs => rfl
  rw [readHeader, readKey_bare hName (by decide) (hBracket _) (by decide)]
  rfl

theorem Line.readStatement {statement : Statement} {line : String} (h : Line statement line)
    {fuel : Nat} (hFuel : line.toList.length ≤ fuel) (rest : List Char) :
    readStatement fuel (line.toList ++ '\n' :: rest) = .ok (statement, rest) := by
  cases h with
  | @assign name text value hName hValue =>
    obtain ⟨c, cs, hCons, hc⟩ := hName.exists_cons
    have hBracket : c ≠ '[' := ne_of_class hc (by decide)
    have hEquals : (" = " : String).toList = [' ', '=', ' '] := by simp
    rw [String.toList_append, List.length_append] at hFuel
    have hValueFuel : text.toList.length ≤ fuel := by omega
    have hRead := readAssignment_bare hName hValue hValueFuel rest
    simp only [String.toList_append, List.append_assoc, hEquals, List.cons_append, List.nil_append]
    rw [hCons, List.cons_append] at hRead ⊢
    rw [Toml.readStatement, hRead]
    all_goals simp [hBracket]
  | @elementHeader name hName =>
    have hOpening : ("[[" : String).toList = ['[', '['] := by simp
    have hClosing : ("]]" : String).toList = [']', ']'] := by simp
    simp only [String.toList_append, List.append_assoc, hOpening, hClosing, List.cons_append,
      List.nil_append]
    rw [Toml.readStatement, readHeader_bare hName]

theorem Line.exists_cons {statement : Statement} {line : String} (h : Line statement line) :
    ∃ c cs, line.toList = c :: cs ∧ isLineStart c = true := by
  cases h with
  | assign hName hValue =>
    obtain ⟨c, cs, hCons, hc⟩ := hName.exists_cons
    simp only [String.toList_append, hCons]
    exact ⟨c, _, rfl, by rw [isLineStart, hc, Bool.true_or]⟩
  | elementHeader hName =>
    have hOpening : ("[[" : String).toList = ['[', '['] := by simp
    simp only [String.toList_append, hOpening]
    exact ⟨'[', _, rfl, rfl⟩

/-! ## Files -/

/-- The files that are written: lines, with empty lines between them. -/
inductive Written : List Statement → String → Prop
  | nil : Written [] ""
  | empty {statements : List Statement} {text : String} (h : Written statements text) :
    Written statements ("\n" ++ text)
  | line {statement : Statement} {statements : List Statement} {line text : String}
    (hLine : Line statement line) (h : Written statements text) :
    Written (statement :: statements) (line ++ "\n" ++ text)

/-- A line is read as its statement, which takes effect before the rest is read. -/
theorem readStatements_line {statement : Statement} {line : String} (h : Line statement line)
    {fuel : Nat} (hFuel : line.toList.length ≤ fuel) {builder built : Builder}
    (hAdd : builder.add statement = .ok built) (rest : List Char) :
    readStatements (fuel + 1) builder (line.toList ++ '\n' :: rest) =
      readStatements fuel built rest := by
  have hRead := h.readStatement hFuel rest
  obtain ⟨c, cs, hCons, hc⟩ := h.exists_cons
  have hBlank : c ≠ ' ' := ne_of_class hc (by decide)
  have hTab : c ≠ '\t' := ne_of_class hc (by decide)
  have hHash : c ≠ '#' := ne_of_class hc (by decide)
  have hLine : c ≠ '\n' := ne_of_class hc (by decide)
  have hReturn : c ≠ '\r' := ne_of_class hc (by decide)
  rw [hCons, List.cons_append] at hRead ⊢
  rw [readStatements, skipSpace_cons_of_not_space (isSpace_eq_false hBlank hTab)]
  simp [hHash, hLine, hReturn, hRead, hAdd]

theorem Written.readStatements {statements : List Statement} {text : String}
    (h : Written statements text) {fuel : Nat} (hFuel : text.toList.length < fuel)
    {builder built : Builder} (hAdd : statements.foldlM Builder.add builder = .ok built) :
    readStatements fuel builder text.toList = .ok built := by
  have hNewline : ("\n" : String).toList = ['\n'] := by simp
  induction h generalizing fuel builder with
  | nil =>
    obtain ⟨fuel, rfl⟩ : ∃ n, fuel = n + 1 := ⟨fuel - 1, by omega⟩
    cases hAdd
    rw [String.toList_empty]
    rfl
  | @empty statements text h ih =>
    rw [String.toList_append, hNewline, List.singleton_append] at hFuel ⊢
    rw [List.length_cons] at hFuel
    obtain ⟨fuel, rfl⟩ : ∃ n, fuel = n + 1 := ⟨fuel - 1, by omega⟩
    exact ih (by omega) hAdd
  | @line statement statements line text hLine h ih =>
    rw [String.toList_append, String.toList_append, hNewline, List.append_assoc,
      List.singleton_append] at hFuel ⊢
    rw [List.length_append, List.length_cons] at hFuel
    obtain ⟨fuel, rfl⟩ : ∃ n, fuel = n + 1 := ⟨fuel - 1, by omega⟩
    rw [List.foldlM_cons] at hAdd
    cases hFirst : builder.add statement with
    | error cause => rw [hFirst] at hAdd; cases hAdd
    | ok next =>
      rw [hFirst] at hAdd
      rw [readStatements_line hLine (by omega) hFirst]
      exact ih (by omega) hAdd

theorem Written.dropMark {statements : List Statement} {text : String}
    (h : Written statements text) : dropMark text.toList = text.toList := by
  cases h with
  | nil => rfl
  | empty h =>
    have hNewline : ("\n" : String).toList = ['\n'] := by simp
    rw [String.toList_append, hNewline]
    rfl
  | line hLine h =>
    obtain ⟨c, cs, hCons, hc⟩ := hLine.exists_cons
    have hMark : c ≠ '\ufeff' := ne_of_class hc (by decide)
    rw [String.toList_append, String.toList_append, hCons]
    simp only [List.cons_append]
    unfold Toml.dropMark
    split <;> simp_all

theorem Written.parse {statements : List Statement} {text : String}
    (h : Written statements text) {built : Builder}
    (hAdd : statements.foldlM Builder.add {} = .ok built) :
    parse text = .ok built.toValue := by
  have hFuel : text.toList.length < 2 * text.toList.length + 2 := by omega
  simp only [Toml.parse, h.dropMark, h.readStatements hFuel hAdd]
  rfl

end Lineation.Toml
