import Lineation.Proofs.Tokenizer.Sources
import Mathlib.Algebra.Order.BigOperators.Group.List
import Mathlib.Algebra.Order.Group.Nat
import Mathlib.Algebra.GroupWithZero.Nat

/-!
# Tokens that give back the text

The closing token of a region is the only one that can have characters the text does not have, where
the region was closed by a part of the closing text right after it opened. If such a part always
starts with a character that goes on with the word that opens the region, this cannot happen: the
region would have been opened by a longer word, or by none (`Tokenizer.ClosesWhole`).

The rules in the manner of C are of this kind. Only `*/` has a proper ending, and `/` goes on with
`/*`, because both characters are in one group.

* `Stretch.exists_weave_texts`: the characters of a line are then the texts of its tokens, with gaps
  around them.
* `Spelling.closing_suffix_cLike`: there is no other way to read a line. A closing token that stands
  for less than its text would have a star that the line does not have.
-/

namespace Lineation

/-! ## Closing texts that are met whole -/

/-- Every proper ending of a closing text starts with a character that goes on with the word that
opens the region. -/
def Tokenizer.ClosesWhole (t : Tokenizer) : Prop :=
  ∀ rule ∈ t.regions, ∀ body, body ≠ [] → body <:+ rule.closing.toList →
    body ≠ rule.closing.toList → ¬ rule.Detached t body

namespace Segment

variable {t : Tokenizer} {rule : RegionRule} {body : List Char}

theorem Valid.rule_mem (h : (closed rule body).Valid t) : rule ∈ t.regions := by
  obtain ⟨before, after, hRegions, -⟩ := h.2.1
  simp [hRegions]

theorem Valid.closing_suffix (hWhole : t.ClosesWhole) (h : (closed rule body).Valid t)
    (hDetached : (closed rule body).Detached t) : rule.closing.toList <:+ body := by
  obtain ⟨hNonempty, hShort | hLong⟩ := h.2.2.1
  · by_cases hEq : body = rule.closing.toList
    · exact hEq ▸ List.suffix_refl body
    · exact absurd hDetached (hWhole rule h.rule_mem body hNonempty hShort hEq)
  · exact hLong

/-- A region whose characters end with the closing text is its tokens. -/
theorem Valid.pieces_eq_of_closing_suffix {segment : Segment} (h : segment.Valid t)
    (hClosing : ∀ rule body, segment = closed rule body → rule.closing.toList <:+ body) :
    segment.pieces = segment.texts.map String.toList := by
  rcases h.pieces_eq_or_short with hEq | ⟨rule, body, hClosed, -, -, -, hNe, hShort⟩
  · exact hEq
  · exact absurd (hShort.eq_of_length_le (hClosing rule body hClosed).length_le) hNe

end Segment

namespace Stretch

variable {t : Tokenizer} {line : List Stretch}

theorem pieces_eq_of_closesWhole (hWhole : t.ClosesWhole)
    (hValid : ∀ stretch ∈ line, stretch.Valid t) (hDetached : ∀ stretch ∈ line, stretch.Detached t) :
    ∀ segment ∈ segments line, segment.pieces = segment.texts.map String.toList := by
  intro segment hMem
  have hLine := mem_segments.mp hMem
  apply Segment.Valid.pieces_eq_of_closing_suffix (hValid _ hLine)
  rintro rule body rfl
  exact Segment.Valid.closing_suffix hWhole (hValid _ hLine) (hDetached _ hLine)

/-- The characters of a line are the texts of its tokens, with gaps around them. -/
theorem exists_weave_texts (hWhole : t.ClosesWhole)
    (hValid : ∀ stretch ∈ line, stretch.Valid t) (hDetached : ∀ stretch ∈ line, stretch.Detached t) :
    ∃ gaps, gaps.length = (texts line).length + 1 ∧ (∀ gap ∈ gaps, ∀ c ∈ gap, t.IsGap c) ∧
      line.flatMap chars = weave gaps ((texts line).map String.toList) := by
  obtain ⟨gaps, hLength, hChars, hGaps⟩ := exists_weave line
  have hPieces : (segments line).flatMap Segment.pieces = (texts line).map String.toList := by
    rw [texts, List.map_flatMap, List.flatMap_def, List.flatMap_def,
      List.map_congr_left (pieces_eq_of_closesWhole hWhole hValid hDetached)]
  rw [hPieces] at hLength hChars
  exact ⟨gaps, by simpa using hLength, fun gap hGap c hc => hValid _ (hGaps gap hGap c hc), hChars⟩

end Stretch

/-- A text is one row of stretches: the rest that belongs to no record is a row of gaps. -/
theorem Layout.exists_row {t : Tokenizer} {text tail : List Char} {s : Scan}
    {lines : List (List Stretch)} (h : Layout t text s lines tail) :
    ∃ row : List Stretch, text = row.flatMap Stretch.chars ∧
      Stretch.texts row = Stretch.texts lines.flatten ∧ (∀ stretch ∈ row, stretch.Valid t) ∧
      ∀ stretch ∈ row, stretch.Detached t := by
  refine ⟨lines.flatten ++ tail.map .gap, ?_, ?_, ?_, ?_⟩
  · rw [h.text_eq, List.flatMap_append]
    simp [List.flatMap_map, Stretch.chars]
  · rw [Stretch.texts_append]
    simp [Stretch.texts, Stretch.segments, List.filterMap_map, Function.comp_def, Stretch.segment?]
  · exact List.forall_mem_append.mpr ⟨h.valid, List.forall_mem_map.mpr h.tail_gaps⟩
  · exact List.forall_mem_append.mpr ⟨h.detached, List.forall_mem_map.mpr fun _ _ => trivial⟩

/-! ## Counting a character that is no gap -/

theorem count_weave {c : Char} {gaps : List (List Char)} (pieces : List (List Char))
    (hGaps : ∀ gap ∈ gaps, c ∉ gap) : (weave gaps pieces).count c = pieces.flatten.count c := by
  induction gaps generalizing pieces with
  | nil => simp [weave]
  | cons gap gaps ih =>
    have hGap : gap.count c = 0 := List.count_eq_zero.mpr (hGaps gap List.mem_cons_self)
    have hRest : ∀ other ∈ gaps, c ∉ other := fun other hMem =>
      hGaps other (List.mem_cons_of_mem _ hMem)
    cases pieces with
    | nil =>
      have hFlatten : gaps.flatten.count c = 0 := by
        rw [List.count_eq_zero]
        intro hMem
        obtain ⟨other, hOther, hc⟩ := List.mem_flatten.mp hMem
        exact hRest other hOther hc
      simp [weave, hGap, hFlatten]
    | cons piece pieces => simp [weave, ih pieces hRest, hGap]

theorem count_flatten_flatMap {α : Type} (c : Char) (f : α → List (List Char)) (l : List α) :
    (l.flatMap f).flatten.count c = (l.map fun a => (f a).flatten.count c).sum := by
  induction l with
  | nil => rfl
  | cons a l ih => simp [ih]

/-- A token has every character of its piece. -/
theorem Segment.Valid.count_pieces_le {t : Tokenizer} {segment : Segment} (h : segment.Valid t)
    (c : Char) :
    segment.pieces.flatten.count c ≤ (segment.texts.map String.toList).flatten.count c := by
  rcases h.pieces_eq_or_short with hEq | ⟨rule, body, -, hTexts, hPieces, -, -, hShort⟩
  · rw [hEq]
  · rw [hTexts, hPieces]
    simpa using hShort.sublist.count_le c

/-! ## Rules in the manner of C -/

namespace Tokenizer

/-- The tokenizer in the manner of C. -/
def cLike (preferences : LexicalPreferences) (naming : Naming) : Tokenizer :=
  (ofRuleSet .cLike preferences).setNaming naming

variable {preferences : LexicalPreferences} {naming : Naming}

theorem eq_of_isGap_cLike {c : Char} (hc : (cLike preferences naming).IsGap c) :
    c = ' ' ∨ c = '\t' := by
  have hMem : c ∈ [' ', '\t'] := hc.2.2
  simpa using hMem

/-- Only the closing text of a comment has a proper ending. -/
theorem eq_of_short_cLike {rule : RegionRule} {body : List Char}
    (hRule : rule ∈ (cLike preferences naming).regions) (hNonempty : body ≠ [])
    (hShort : body <:+ rule.closing.toList) (hNe : body ≠ rule.closing.toList) :
    rule = ⟨"/*", "*/"⟩ ∧ body = ['/'] := by
  have hCases : rule = ⟨"\"", "\""⟩ ∨ rule = ⟨"//", "\n"⟩ ∨ rule = ⟨"/*", "*/"⟩ := by
    simpa [cLike, ofRuleSet, setNaming, RuleSet.cLike] using hRule
  rcases hCases with rfl | rfl | rfl
  · have hSuffix : body <:+ ['"'] := hShort
    exact absurd ((List.suffix_cons_iff.mp hSuffix).resolve_right (by simpa using hNonempty)) hNe
  · have hSuffix : body <:+ ['\n'] := hShort
    exact absurd ((List.suffix_cons_iff.mp hSuffix).resolve_right (by simpa using hNonempty)) hNe
  · have hSuffix : body <:+ ['*', '/'] := hShort
    have hRest : body <:+ ['/'] := (List.suffix_cons_iff.mp hSuffix).resolve_left hNe
    exact ⟨rfl, (List.suffix_cons_iff.mp hRest).resolve_right (by simpa using hNonempty)⟩

theorem inGroup_cLike {c : Char} (hc : c = '/' ∨ c = '*') :
    (cLike preferences naming).InGroup 0 c := by
  rcases hc with rfl | rfl
  · exact classify_eq_grouped_iff.mp rfl
  · exact classify_eq_grouped_iff.mp rfl

theorem closesWhole_cLike : (cLike preferences naming).ClosesWhole := by
  intro rule hRule body hNonempty hShort hNe hDetached
  obtain ⟨rfl, rfl⟩ := eq_of_short_cLike hRule hNonempty hShort hNe
  -- The characters of `/*/` are all of the first group.
  apply RegionRule.detached_singleton.mp hDetached
  refine ⟨by simp, 0, ['/', '*', '/'], [], rfl, ?_, by simp⟩
  intro c hc
  exact inGroup_cLike (by simp at hc; tauto)

/-- A record whose characters are the texts of its tokens cannot be read with a region that was
closed by less than its closing text. -/
theorem Spelling.closing_suffix_cLike {record : LineRecord} {gaps gaps' pieces : List (List Char)}
    {segments : List Segment} (h : Spelling (cLike preferences naming) record gaps pieces segments)
    (hGaps : ∀ gap ∈ gaps', ∀ c ∈ gap, (cLike preferences naming).IsGap c)
    (hSource : record.source.toList = weave gaps' (record.texts.map String.toList))
    {rule : RegionRule} {body : List Char} (hMem : Segment.closed rule body ∈ segments) :
    rule.closing.toList <:+ body := by
  by_contra hClosing
  have hValid := h.valid _ hMem
  obtain ⟨hNonempty, hEnds⟩ := hValid.2.2.1
  have hNe : body ≠ rule.closing.toList := fun hEq => hClosing (hEq ▸ List.suffix_refl body)
  obtain ⟨rfl, rfl⟩ :=
    eq_of_short_cLike hValid.rule_mem hNonempty (hEnds.resolve_right hClosing) hNe
  have hStar : ¬ (cLike preferences naming).IsGap '*' := fun hGap => by
    rcases eq_of_isGap_cLike hGap with hEq | hEq <;> cases hEq
  have hStars : pieces.flatten.count '*' = (record.texts.map String.toList).flatten.count '*' := by
    rw [← count_weave pieces fun gap hGap hc => hStar (h.gaps_separate gap hGap _ hc),
      ← count_weave _ fun gap hGap hc => hStar (hGaps gap hGap _ hc), ← h.source_eq, hSource]
  have hFewer : (segments.map fun segment => segment.pieces.flatten.count '*').sum <
      (segments.map fun segment => (segment.texts.map String.toList).flatten.count '*').sum :=
    List.sum_lt_sum _ _ (fun segment hSegment => (h.valid segment hSegment).count_pieces_le '*')
      ⟨_, hMem, by decide⟩
  rw [h.pieces_eq, h.texts_eq, List.map_flatMap, count_flatten_flatMap,
    count_flatten_flatMap] at hStars
  exact absurd hStars (Nat.ne_of_lt hFewer)

/-- Every text is the texts of its tokens in order, with nothing but spaces and tabs before, between
and after them. No record can be read otherwise: each token stands for exactly its text, and every
region that was closed has its closing text at its end. -/
theorem tokenize_cLike_exists_weave (preferences : LexicalPreferences) (naming : Naming)
    (text : String) :
    let t := cLike preferences naming
    let records := (t.tokenize text).records
    (∃ (gaps : List (List Char)) (segments : List Segment),
      text.toList = weave gaps ((records.flatMap LineRecord.texts).map String.toList) ∧
      gaps.length = (records.flatMap LineRecord.texts).length + 1 ∧
      (∀ gap ∈ gaps, ∀ c ∈ gap, c = ' ' ∨ c = '\t') ∧
      records.flatMap LineRecord.texts = segments.flatMap Segment.texts ∧
      ∀ segment ∈ segments, segment.Valid t ∧ segment.pieces = segment.texts.map String.toList) ∧
    ∀ record ∈ records, ∀ gaps pieces segments, Spelling t record gaps pieces segments →
      pieces = record.texts.map String.toList ∧
      ∀ rule body, Segment.closed rule body ∈ segments → rule.closing.toList <:+ body := by
  intro t records
  obtain ⟨lines, tail, hLayout, hRecords, -⟩ := exists_layout_tokenize t text
  refine ⟨?_, ?_⟩
  · obtain ⟨row, hChars, hTexts, hValid, hDetached⟩ := hLayout.exists_row
    rw [← t.flatMap_texts_records, ← hRecords] at hTexts
    obtain ⟨gaps, hLength, hGaps, hWeave⟩ :=
      Stretch.exists_weave_texts closesWhole_cLike hValid hDetached
    rw [hTexts] at hLength hWeave
    refine ⟨gaps, Stretch.segments row, hChars.trans hWeave, hLength,
      fun gap hGap c hc => eq_of_isGap_cLike (hGaps gap hGap c hc), hTexts.symm, ?_⟩
    intro segment hMem
    exact ⟨hValid _ (Stretch.mem_segments.mp hMem),
      Stretch.pieces_eq_of_closesWhole closesWhole_cLike hValid hDetached segment hMem⟩
  · intro record hMem gaps pieces segments hSpelling
    rw [show records = t.records lines from hRecords] at hMem
    obtain ⟨number, line, hLine, rfl⟩ := mem_records hMem
    obtain ⟨gaps', -, hGaps, hWeave⟩ := Stretch.exists_weave_texts closesWhole_cLike
      (fun stretch hStretch => hLayout.valid stretch (List.mem_flatten.mpr ⟨line, hLine, hStretch⟩))
      (fun stretch hStretch =>
        hLayout.detached stretch (List.mem_flatten.mpr ⟨line, hLine, hStretch⟩))
    rw [← t.source_record number, ← t.texts_record number] at hWeave
    have hClosing : ∀ rule body, Segment.closed rule body ∈ segments →
        rule.closing.toList <:+ body := fun rule body hClosed =>
      hSpelling.closing_suffix_cLike hGaps hWeave hClosed
    refine ⟨?_, hClosing⟩
    rw [hSpelling.pieces_eq, hSpelling.texts_eq, List.map_flatMap, List.flatMap_def,
      List.flatMap_def]
    refine congrArg List.flatten (List.map_congr_left fun segment hSegment => ?_)
    apply (hSpelling.valid segment hSegment).pieces_eq_of_closing_suffix
    rintro rule body rfl
    exact hClosing rule body hSegment

/-- A slash right after `/*` is part of that word, so it does not close the comment. -/
example : ((cLike {} Naming.wide).tokenize "/*/ */").records.map LineRecord.texts =
    [["/*/", "*/"]] := by rfl

end Tokenizer

end Lineation
