import Mathlib.Data.List.Forall2
import Lineation.Proofs.Text.Quoted
import Lineation.Render

/-!
# Rows of records can be read back

A record is shown as its number, a bar and its tokens after blanks, and is ended by a newline.
Whatever the tokens hold, the row says which number and which texts they are: the number is closed
by the bar, each token by its own double quote, and the tokens by a newline, which is not how a
token goes on. So rows are prefix free (`Render.prefixFree_row`), and the rows of two streams are the
same only if their records are (`Render.text_eq_iff`).
-/

namespace Lineation.Render

/-! ## Numbers -/

/-- A row up to its bar. -/
def numberChars (n : Nat) : List Char :=
  (column n ++ " ").toList ++ ['|']

/-- The blanks before a number are no part of it. -/
theorem filter_column (n : Nat) : (column n).toList.filter (· ≠ ' ') = Nat.toDigits 10 n := by
  have hBlank : ' ' ∉ Nat.toDigits 10 n := not_mem_toDigits (by decide) (by decide) n
  have hDigits : (Nat.toDigits 10 n).filter (· ≠ ' ') = Nat.toDigits 10 n := by
    rw [List.filter_eq_self]
    exact fun c hMem => decide_eq_true (ne_of_mem_of_not_mem hMem hBlank)
  rw [column, String.toList_ofList, List.filter_append, hDigits]
  simp

theorem column_injective : Function.Injective column := by
  intro m n h
  have hDigits := congrArg (fun text => text.toList.filter (· ≠ ' ')) h
  rw [filter_column, filter_column] at hDigits
  exact toDigits_injective (by decide) (by decide) hDigits

theorem prefixFree_numberChars : PrefixFree numberChars := by
  refine PrefixFree.closed (fun m n h => ?_) fun n hMem => ?_
  · have hColumn : column m ++ " " = column n ++ " " := String.toList_injective h
    exact column_injective ((String.append_left_inj " ").mp hColumn)
  · have hDigits : '|' ∉ Nat.toDigits 10 n := not_mem_toDigits (by decide) (by decide) n
    simp [column, hDigits] at hMem

/-! ## Tokens -/

/-- A row after its bar. -/
def tokenChars (texts : List String) : List Char :=
  ' ' :: (" ".intercalate (texts.map Text.quoted)).toList ++ ['\n']

/-- Each token after a blank. -/
def blankTokens (texts : List String) : List Char :=
  texts.flatMap (fun text => ' ' :: (Text.quoted text).toList) ++ ['\n']

theorem tokenChars_cons (text : String) (texts : List String) :
    tokenChars (text :: texts) = blankTokens (text :: texts) := by
  induction texts generalizing text with
  | nil => simp [tokenChars, blankTokens]
  | cons next texts ih =>
    have hRest := ih next
    rw [tokenChars, List.map_cons, List.cons_append] at hRest
    rw [tokenChars, List.map_cons, List.map_cons, String.intercalate_cons_cons, blankTokens,
      List.flatMap_cons, List.append_assoc, ← blankTokens, ← hRest]
    simp

theorem prefixFree_blankTokens : PrefixFree blankTokens := by
  have hToken : PrefixFree fun text => ' ' :: (Text.quoted text).toList := by
    intro a b s t h
    exact Text.prefixFree_quoted a b s t (List.tail_eq_of_cons_eq h)
  intro as bs s t h
  simp only [blankTokens, List.append_assoc] at h
  obtain ⟨rfl, hRest⟩ := hToken.flatMap_append_inj (by simp) (by simp) h
  exact ⟨rfl, List.tail_eq_of_cons_eq hRest⟩

/-- Of no token only the blank before it is shown. -/
theorem prefixFree_tokenChars : PrefixFree tokenChars := by
  have hNone (text : String) (texts : List String) (s t : List Char) :
      tokenChars [] ++ s ≠ tokenChars (text :: texts) ++ t := by
    rw [tokenChars_cons, blankTokens, List.flatMap_cons, Text.toList_quoted]
    simp [tokenChars]
  intro as bs s t h
  cases as with
  | nil =>
    cases bs with
    | nil => exact ⟨rfl, by simpa using h⟩
    | cons b bs => exact absurd h (hNone b bs s t)
  | cons a as =>
    cases bs with
    | nil => exact absurd h.symm (hNone a as t s)
    | cons b bs =>
      rw [tokenChars_cons, tokenChars_cons] at h
      exact prefixFree_blankTokens _ _ _ _ h

/-! ## Rows -/

/-- What a row shows of a record. -/
def shown (record : LineRecord) : Nat × List String :=
  (record.number, record.texts)

/-- The row of a number and some texts. -/
def row (pair : Nat × List String) : List Char :=
  numberChars pair.1 ++ tokenChars pair.2

theorem toList_recordRow (record : LineRecord) : (recordRow record).toList = row (shown record) := by
  simp [recordRow, row, shown, numberChars, tokenChars]

theorem prefixFree_row : PrefixFree row :=
  prefixFree_numberChars.prod prefixFree_tokenChars

theorem row_append_ne_nil (pair : Nat × List String) (s : List Char) : row pair ++ s ≠ [] := by
  simp [row, tokenChars]

theorem toList_join_recordRows (records : List LineRecord) :
    (String.join (records.map recordRow)).toList = (records.map shown).flatMap row := by
  simp [String.toList_join, List.flatMap_map, toList_recordRow]

theorem map_shown_eq_iff {as bs : List LineRecord} :
    as.map shown = bs.map shown ↔
      List.Forall₂ (fun r s => r.number = s.number ∧ r.texts = s.texts) as bs := by
  have hEq : as.map shown = bs.map shown ↔ List.Forall₂ Eq (as.map shown) (bs.map shown) := by
    rw [List.forall₂_eq_eq_eq]
  rw [hEq, List.forall₂_map_left_iff, List.forall₂_map_right_iff]
  simp only [shown, Prod.mk.injEq]

/-- Two streams are shown alike, under the same heading, exactly if they have as many records and
each record has the number and the texts of the one in its place. -/
theorem text_eq_iff (path : String) (heading : Bool) (a b : TokenStream) :
    text path a heading = text path b heading ↔
      List.Forall₂ (fun r s => r.number = s.number ∧ r.texts = s.texts)
        a.lines.toList b.lines.toList := by
  rw [← map_shown_eq_iff, text, text, String.append_right_inj, ← String.toList_inj, toList_join_recordRows,
    toList_join_recordRows]
  constructor
  · intro h
    exact (prefixFree_row.flatMap_append_inj row_append_ne_nil row_append_ne_nil
      (congrArg (· ++ []) h)).1
  · intro h
    rw [h]

end Lineation.Render
