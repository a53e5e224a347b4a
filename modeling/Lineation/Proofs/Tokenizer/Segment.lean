import Lineation.Proofs.Tokenizer.Classes

/-!
# Segments of a line

A line of a text is a row of stretches: characters that separate, and segments. A segment is one
token that opens nothing, or the opening text of a rule with the characters that follow it, up to
the closing text or up to the end of the text.

* `Segment.texts`, `Segment.pieces`: the tokens of a segment, and the characters that each of them
  stands for. They differ only in the closing token of a region.
* `Segment.Detached`: the word that opens a region does not go on with the region.
* `Segment.pieces_eq_or_short`: they differ only where a region was closed by a part of the closing
  text.
* `exists_weave`: a line is its pieces with gaps before, between and after them.
-/

namespace Lineation

namespace RegionRule

variable {rule : RegionRule} {body : List Char}

/-- The characters of a region without as many last ones as the closing text has. -/
def content (rule : RegionRule) (body : List Char) : List Char :=
  body.take (body.length - rule.closing.length)

/-- The characters of a region that the closing token stands for. -/
def ending (rule : RegionRule) (body : List Char) : List Char :=
  body.drop (body.length - rule.closing.length)

theorem content_append_ending (rule : RegionRule) (body : List Char) :
    rule.content body ++ rule.ending body = body :=
  List.take_append_drop _ _

theorem Ends.ending_eq (h : rule.Ends body) (hLength : rule.closing.length ≤ body.length) :
    rule.ending body = rule.closing.toList := by
  have hSuffix : rule.closing.toList <:+ body := by
    rcases h.2 with hShort | hLong
    · have hEq : body = rule.closing.toList :=
        hShort.eq_of_length_le (by rwa [String.length_toList])
      exact hEq ▸ List.suffix_refl body
    · exact hLong
  obtain ⟨front, rfl⟩ := hSuffix
  simp [ending, String.length_toList]

theorem content_of_short (h : body.length < rule.closing.length) : rule.content body = [] := by
  simp [content, Nat.sub_eq_zero_of_le (Nat.le_of_lt h)]

theorem ending_of_short (h : body.length < rule.closing.length) : rule.ending body = body := by
  simp [ending, Nat.sub_eq_zero_of_le (Nat.le_of_lt h)]

theorem Ends.suffix_of_short (h : rule.Ends body) (hLength : body.length < rule.closing.length) :
    body <:+ rule.closing.toList := by
  rcases h.2 with hShort | hLong
  · exact hShort
  · have hLe := hLong.length_le
    rw [String.length_toList] at hLe
    omega

end RegionRule

/-! ## Where a region starts -/

namespace RegionRule

variable {t : Tokenizer} {rule : RegionRule} {body : List Char}

/-- The opening text goes as far as it can: with the first character of the region it would not be
a word. -/
def Detached (t : Tokenizer) (rule : RegionRule) (body : List Char) : Prop :=
  ∀ first ∈ body.head?, ¬ t.IsWord (rule.opening.toList ++ [first])

theorem detached_nil : rule.Detached t [] := by
  intro first hFirst
  cases hFirst

theorem detached_singleton {c : Char} :
    rule.Detached t [c] ↔ ¬ t.IsWord (rule.opening.toList ++ [c]) := by
  simp [Detached]

/-- A character that is alone goes no further. -/
theorem detached_of_isAlone {c : Char} (hOpening : rule.opening.toList = [c]) (hc : t.IsAlone c)
    (body : List Char) : rule.Detached t body := by
  intro first _ hWord
  rw [hOpening] at hWord
  exact hWord.not_isAlone c (by simp) hc

theorem Detached.append (h : rule.Detached t body) (hNonempty : body ≠ []) (more : List Char) :
    rule.Detached t (body ++ more) := by
  obtain ⟨first, body, rfl⟩ := List.exists_cons_of_ne_nil hNonempty
  exact h

theorem Detached.of_append {more : List Char} (h : rule.Detached t (body ++ more)) :
    rule.Detached t body := by
  cases body with
  | nil => exact detached_nil
  | cons first body => exact h

end RegionRule

/-! ## Segments -/

/-- Some consecutive tokens of a line that belong together. -/
inductive Segment where
  /-- One token that opens no region. -/
  | plain (text : List Char)
  /-- A region, with the characters from its opening text up to the one that ended it. -/
  | closed (rule : RegionRule) (body : List Char)
  /-- A region in which the text ended, with the characters from its opening text on. -/
  | unclosed (rule : RegionRule) (body : List Char)
deriving DecidableEq

namespace Segment

variable {t : Tokenizer}

/-- Some characters as a token, unless there are none. -/
def optional (chars : List Char) : List (List Char) :=
  if chars.isEmpty then [] else [chars]

/-- The texts of the tokens. -/
def texts : Segment → List String
  | plain text => [String.ofList text]
  | closed rule body =>
    rule.opening :: (optional (rule.content body)).map String.ofList ++ [rule.closing]
  | unclosed rule body => rule.opening :: (optional body).map String.ofList

/-- The characters that each of the tokens stands for. -/
def pieces : Segment → List (List Char)
  | plain text => [text]
  | closed rule body =>
    rule.opening.toList :: optional (rule.content body) ++ [rule.ending body]
  | unclosed rule body => rule.opening.toList :: optional body

/-- The characters of the segment. -/
def chars (segment : Segment) : List Char := segment.pieces.flatten

/-- Whether the segment is a region that was closed. -/
def isClosed : Segment → Bool
  | closed _ _ => true
  | _ => false

/-- Whether the segment is a region in which the text ended. -/
def isUnclosed : Segment → Bool
  | unclosed _ _ => true
  | _ => false

/-- What a tokenizer makes a segment of. A region is that of the first rule with its opening text,
and its characters go as far as the first ones that end it. -/
def Valid (t : Tokenizer) : Segment → Prop
  | plain text => t.IsHead text ∧ ∀ rule ∈ t.regions, rule.opening ≠ String.ofList text
  | closed rule body => t.IsHead rule.opening.toList ∧ t.IsFirst rule ∧ rule.Finished body
  | unclosed rule body => t.IsHead rule.opening.toList ∧ t.IsFirst rule ∧ rule.Running body

/-- The opening text of a region goes as far as it can. -/
def Detached (t : Tokenizer) : Segment → Prop
  | plain _ => True
  | closed rule body => rule.Detached t body
  | unclosed rule body => rule.Detached t body

@[simp]
theorem flatten_optional (chars : List Char) : (optional chars).flatten = chars := by
  unfold optional
  split <;> simp_all

@[simp]
theorem chars_plain (text : List Char) : (plain text).chars = text := by
  simp [chars, pieces]

@[simp]
theorem chars_closed (rule : RegionRule) (body : List Char) :
    (closed rule body).chars = rule.opening.toList ++ body := by
  simp [chars, pieces, RegionRule.content_append_ending]

@[simp]
theorem chars_unclosed (rule : RegionRule) (body : List Char) :
    (unclosed rule body).chars = rule.opening.toList ++ body := by
  simp [chars, pieces]

theorem texts_ne_nil (segment : Segment) : segment.texts ≠ [] := by
  cases segment <;> simp [texts]

theorem length_pieces (segment : Segment) : segment.pieces.length = segment.texts.length := by
  cases segment <;> simp [pieces, texts]

theorem Valid.chars_ne_nil {segment : Segment} (h : segment.Valid t) : segment.chars ≠ [] := by
  cases segment with
  | plain text => simpa using h.1.ne_nil
  | closed rule body =>
    have hOpening := h.1.ne_nil
    simp_all
  | unclosed rule body =>
    have hOpening := h.1.ne_nil
    simp_all

/-- The closing token of a region is the only one whose text need not be what it stands for: a
region may be closed by a part of the closing text, right after the opening text. -/
theorem Valid.pieces_eq_or_short {segment : Segment} (h : segment.Valid t) :
    segment.pieces = segment.texts.map String.toList ∨
      ∃ rule body, segment = closed rule body ∧ segment.texts = [rule.opening, rule.closing] ∧
        segment.pieces = [rule.opening.toList, body] ∧
        body ≠ [] ∧ body ≠ rule.closing.toList ∧ body <:+ rule.closing.toList := by
  cases segment with
  | plain text => exact Or.inl (by simp [pieces, texts])
  | unclosed rule body => exact Or.inl (by simp [pieces, texts])
  | closed rule body =>
    have hEnds : rule.Ends body := h.2.2.1
    by_cases hLength : rule.closing.length ≤ body.length
    · refine Or.inl ?_
      simp [pieces, texts, hEnds.ending_eq hLength]
    · have hShort : body.length < rule.closing.length := by omega
      refine Or.inr ⟨rule, body, rfl, ?_, ?_, hEnds.1, ?_, hEnds.suffix_of_short hShort⟩
      · simp [texts, RegionRule.content_of_short hShort, optional]
      · simp [pieces, RegionRule.content_of_short hShort, RegionRule.ending_of_short hShort,
          optional]
      · rintro rfl
        rw [String.length_toList] at hShort
        omega

/-- A closing text of one character cannot be met by a part of it. -/
theorem Valid.pieces_eq {segment : Segment} (h : segment.Valid t)
    (hClosing : ∀ rule ∈ t.regions, rule.closing.length ≤ 1) :
    segment.pieces = segment.texts.map String.toList := by
  rcases h.pieces_eq_or_short with hEq | ⟨rule, body, rfl, _, _, hNonempty, hNe, hSuffix⟩
  · exact hEq
  · obtain ⟨before, after, hRegions, _⟩ := h.2.1
    have hOne := hClosing rule (by simp [hRegions])
    have hPositive := List.length_pos_iff.mpr hNonempty
    exact absurd (hSuffix.eq_of_length_le (by rw [String.length_toList]; omega)) hNe

end Segment

/-! ## Lines -/

/-- A part of a line. -/
inductive Stretch where
  /-- A character that separates. -/
  | gap (c : Char)
  | segment (s : Segment)
deriving DecidableEq

namespace Stretch

variable {t : Tokenizer}

def chars : Stretch → List Char
  | gap c => [c]
  | segment s => s.chars

def segment? : Stretch → Option Segment
  | gap _ => none
  | segment s => some s

def Valid (t : Tokenizer) : Stretch → Prop
  | gap c => t.IsGap c
  | segment s => s.Valid t

def Detached (t : Tokenizer) : Stretch → Prop
  | gap _ => True
  | segment s => s.Detached t

/-- Whether the text ended inside the stretch. -/
def isUnclosed : Stretch → Bool
  | gap _ => false
  | segment s => s.isUnclosed

theorem Valid.chars_ne_nil {stretch : Stretch} (h : stretch.Valid t) : stretch.chars ≠ [] := by
  cases stretch with
  | gap c => simp [chars]
  | segment s => exact Segment.Valid.chars_ne_nil h

/-- The segments of a line. -/
def segments (line : List Stretch) : List Segment := line.filterMap segment?

/-- The texts of the tokens of a line. -/
def texts (line : List Stretch) : List String := (segments line).flatMap Segment.texts

@[simp]
theorem segments_append (line more : List Stretch) :
    segments (line ++ more) = segments line ++ segments more :=
  List.filterMap_append

@[simp]
theorem segments_nil : segments [] = [] := rfl

@[simp]
theorem segments_gap (c : Char) (line : List Stretch) :
    segments (gap c :: line) = segments line := rfl

@[simp]
theorem segments_segment (s : Segment) (line : List Stretch) :
    segments (segment s :: line) = s :: segments line := rfl

@[simp]
theorem texts_append (line more : List Stretch) :
    texts (line ++ more) = texts line ++ texts more := by
  simp [texts]

theorem mem_segments {s : Segment} {line : List Stretch} :
    s ∈ segments line ↔ segment s ∈ line := by
  unfold segments
  rw [List.mem_filterMap]
  constructor
  · rintro ⟨stretch, hMem, hSome⟩
    cases stretch with
    | gap c => cases hSome
    | segment found =>
      cases hSome
      exact hMem
  · intro hMem
    exact ⟨segment s, hMem, rfl⟩

/-- A line without tokens has nothing but gaps. -/
theorem eq_gap_of_texts_eq_nil {line : List Stretch} (h : texts line = []) :
    ∀ stretch ∈ line, ∃ c, stretch = gap c := by
  intro stretch hMem
  cases stretch with
  | gap c => exact ⟨c, rfl⟩
  | segment s =>
    have hTexts := List.flatMap_eq_nil_iff.mp h s (mem_segments.mpr hMem)
    exact absurd hTexts s.texts_ne_nil

/-- The segments of some lines, line by line or all at once. -/
theorem segments_flatten (lines : List (List Stretch)) :
    segments lines.flatten = (lines.map segments).flatten := by
  induction lines with
  | nil => rfl
  | cons line lines ih =>
    rw [List.flatten_cons, segments_append, ih, List.map_cons, List.flatten_cons]

/-- A segment that is not the last one is not the last stretch. -/
theorem mem_dropLast_of_mem_segments {s : Segment} {line : List Stretch}
    (h : s ∈ (segments line).dropLast) : segment s ∈ line.dropLast := by
  rcases List.eq_nil_or_concat line with rfl | ⟨front, last, rfl⟩
  · cases h
  · rw [List.concat_eq_append, List.dropLast_concat]
    rw [List.concat_eq_append, segments_append] at h
    apply mem_segments.mp
    cases last with
    | gap c =>
      rw [segments_gap, segments_nil, List.append_nil] at h
      exact (List.dropLast_sublist _).subset h
    | segment final => rwa [segments_segment, segments_nil, List.dropLast_concat] at h

end Stretch

/-! ## Gaps and pieces -/

/-- A gap, a piece, a gap, and so on. -/
def weave : List (List Char) → List (List Char) → List Char
  | gap :: gaps, piece :: pieces => gap ++ piece ++ weave gaps pieces
  | gaps, pieces => gaps.flatten ++ pieces.flatten

theorem weave_replicate_append (pieces gaps more : List (List Char)) :
    weave (List.replicate pieces.length [] ++ gaps) (pieces ++ more) =
      pieces.flatten ++ weave gaps more := by
  induction pieces with
  | nil => simp
  | cons piece pieces ih =>
    simp only [List.length_cons, List.replicate_succ, List.cons_append, weave, ih]
    simp

theorem weave_cons_gap (c : Char) (gap : List Char) (gaps pieces : List (List Char)) :
    weave ((c :: gap) :: gaps) pieces = c :: weave (gap :: gaps) pieces := by
  cases pieces <;> simp [weave]

/-- The characters of a line are the pieces of its segments with gaps around them. -/
theorem Stretch.exists_weave (line : List Stretch) :
    ∃ gaps, gaps.length = ((segments line).flatMap Segment.pieces).length + 1 ∧
      line.flatMap chars = weave gaps ((segments line).flatMap Segment.pieces) ∧
      ∀ gap ∈ gaps, ∀ c ∈ gap, Stretch.gap c ∈ line := by
  induction line with
  | nil => exact ⟨[[]], by simp, by simp [weave], by simp⟩
  | cons stretch line ih =>
    obtain ⟨gaps, hLength, hChars, hGaps⟩ := ih
    cases stretch with
    | gap c =>
      cases gaps with
      | nil => simp at hLength
      | cons gap gaps =>
        refine ⟨(c :: gap) :: gaps, by simpa using hLength, ?_, ?_⟩
        · simp [weave_cons_gap, chars, hChars]
        · intro gap' hGap d hd
          rcases List.mem_cons.mp hGap with rfl | hGap
          · rcases List.mem_cons.mp hd with rfl | hd
            · exact List.mem_cons_self
            · exact List.mem_cons_of_mem _ (hGaps gap List.mem_cons_self d hd)
          · exact List.mem_cons_of_mem _ (hGaps gap' (List.mem_cons_of_mem _ hGap) d hd)
    | segment s =>
      refine ⟨List.replicate s.pieces.length [] ++ gaps, ?_, ?_, ?_⟩
      · simp [hLength, Nat.add_assoc]
      · simp [weave_replicate_append, hChars, chars, Segment.chars]
      · intro gap hGap d hd
        rcases List.mem_append.mp hGap with hGap | hGap
        · rw [(List.mem_replicate.mp hGap).2] at hd
          cases hd
        · exact List.mem_cons_of_mem _ (hGaps gap hGap d hd)

end Lineation
