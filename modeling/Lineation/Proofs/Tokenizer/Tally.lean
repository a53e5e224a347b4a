import Mathlib.Data.List.Induction
import Lineation.Proofs.Tokenizer.Segment

/-!
# What segments count for

The metrics of a run, computed from the segments of its lines in the order in which the tokens are
met. `Metrics.ofLines` leaves out a line that was dropped, which adds `Metrics.addDropped`.

* `Metrics.ofLines_eq_foldl`: what does not change with a line is counted segment by segment.
* `Metrics.ofLines_capturedRegions`, `Metrics.ofLines_unterminatedRegions`: regions are counted
  once each, by how they end.
* `Metrics.ofLines_totalLines`, `Metrics.ofLines_droppedLines`: so are lines.
-/

namespace Lineation.Metrics

variable {preferences : LexicalPreferences} {limits : Limits}

/-- Counts some tokens. -/
def addTexts (preferences : LexicalPreferences) (texts : List String) (m : Metrics) : Metrics :=
  texts.foldl (fun m text => m.addToken preferences text) m

/-- Counts an opening text and the region that it opens. -/
def addHead (preferences : LexicalPreferences) (limits : Limits) (rule : RegionRule) (m : Metrics) :
    Metrics :=
  (m.addToken preferences rule.opening).addOpening preferences limits rule.opening

/-- Counts a segment. -/
def addSegment (preferences : LexicalPreferences) (limits : Limits) (m : Metrics) :
    Segment → Metrics
  | .plain text => m.addToken preferences (String.ofList text)
  | .closed rule body =>
    let m := (m.addHead preferences limits rule).addTexts preferences
      ((Segment.optional (rule.content body)).map String.ofList ++ [rule.closing])
    { m with capturedRegions := m.capturedRegions + 1 }
  | .unclosed rule body =>
    let m := (m.addHead preferences limits rule).addTexts preferences
      ((Segment.optional body).map String.ofList)
    { m with unterminatedRegions := m.unterminatedRegions + 1 }

/-- Counts the segments of a line. -/
def addSegments (preferences : LexicalPreferences) (limits : Limits) (m : Metrics)
    (line : List Segment) : Metrics :=
  line.foldl (addSegment preferences limits) m

/-- Counts a line. -/
def addLine (m : Metrics) : Metrics :=
  { m with totalLines := m.totalLines + 1 }

/-- Counts a line without tokens. -/
def addDropped (m : Metrics) : Metrics :=
  { m with totalLines := m.totalLines + 1, droppedLines := m.droppedLines + 1 }

/-- Counts lines that have tokens, after what was counted before. -/
def addLines (preferences : LexicalPreferences) (limits : Limits) (m : Metrics)
    (lines : List (List Segment)) : Metrics :=
  lines.foldl (fun m line => (m.addSegments preferences limits line).addLine) m

/-- Counts the lines of a text. -/
def ofLines (preferences : LexicalPreferences) (limits : Limits) (lines : List (List Segment)) :
    Metrics :=
  addLines preferences limits {} lines

@[simp]
theorem addSegments_nil (m : Metrics) : m.addSegments preferences limits [] = m := rfl

@[simp]
theorem addSegments_append (m : Metrics) (line more : List Segment) :
    m.addSegments preferences limits (line ++ more) =
      (m.addSegments preferences limits line).addSegments preferences limits more :=
  List.foldl_append

@[simp]
theorem ofLines_concat (lines : List (List Segment)) (line : List Segment) :
    ofLines preferences limits (lines ++ [line]) =
      ((ofLines preferences limits lines).addSegments preferences limits line).addLine := by
  simp [ofLines, addLines, List.foldl_append]

/-! ## Counts that tokens do not change -/

/-- A count that neither tokens nor openings change. -/
structure Steady (preferences : LexicalPreferences) (limits : Limits) (count : Metrics → Nat) :
    Prop where
  token : ∀ (m : Metrics) (text : String), count (m.addToken preferences text) = count m
  opening : ∀ (m : Metrics) (text : String), count (m.addOpening preferences limits text) = count m

namespace Steady

variable {count : Metrics → Nat}

theorem texts (h : Steady preferences limits count) (m : Metrics) (texts : List String) :
    count (m.addTexts preferences texts) = count m := by
  unfold addTexts
  induction texts generalizing m with
  | nil => rfl
  | cons text texts ih => rw [List.foldl_cons, ih, h.token]

theorem head (h : Steady preferences limits count) (m : Metrics) (rule : RegionRule) :
    count (m.addHead preferences limits rule) = count m := by
  rw [addHead, h.opening, h.token]

/-- What a segment adds to a count that only the ends of regions change. -/
theorem segment (h : Steady preferences limits count) (kind : Segment → Bool)
    (hPlain : ∀ text, kind (.plain text) = false)
    (hClosed : ∀ (m : Metrics) rule body,
      count { m with capturedRegions := m.capturedRegions + 1 } =
        count m + (kind (.closed rule body)).toNat)
    (hUnclosed : ∀ (m : Metrics) rule body,
      count { m with unterminatedRegions := m.unterminatedRegions + 1 } =
        count m + (kind (.unclosed rule body)).toNat)
    (m : Metrics) (s : Segment) :
    count (m.addSegment preferences limits s) = count m + (kind s).toNat := by
  cases s with
  | plain text => rw [addSegment, h.token, hPlain, Bool.toNat_false, Nat.add_zero]
  | closed rule body =>
    rw [addSegment]
    rw [hClosed _ rule body, h.texts, h.head]
  | unclosed rule body =>
    rw [addSegment]
    rw [hUnclosed _ rule body, h.texts, h.head]

end Steady

theorem steady_totalLines : Steady preferences limits totalLines where
  token _ _ := rfl
  opening m text := by unfold addOpening; split <;> rfl

theorem steady_droppedLines : Steady preferences limits droppedLines where
  token _ _ := rfl
  opening m text := by unfold addOpening; split <;> rfl

theorem steady_capturedRegions : Steady preferences limits capturedRegions where
  token _ _ := rfl
  opening m text := by unfold addOpening; split <;> rfl

theorem steady_unterminatedRegions : Steady preferences limits unterminatedRegions where
  token _ _ := rfl
  opening m text := by unfold addOpening; split <;> rfl

/-! ## Counts of segments and lines -/

section Segmentwise

variable {α : Type} (count : Metrics → α) (add : α → Segment → α)

/-- What is counted segment by segment. -/
theorem addSegments_eq_foldl
    (h : ∀ (m : Metrics) (s : Segment),
      count (m.addSegment preferences limits s) = add (count m) s)
    (m : Metrics) (line : List Segment) :
    count (m.addSegments preferences limits line) = line.foldl add (count m) := by
  unfold addSegments
  induction line generalizing m with
  | nil => rfl
  | cons s line ih => rw [List.foldl_cons, ih, h, List.foldl_cons]

/-- What is counted segment by segment, and does not change with a line. -/
theorem ofLines_eq_foldl
    (h : ∀ (m : Metrics) (s : Segment),
      count (m.addSegment preferences limits s) = add (count m) s)
    (hLine : ∀ m : Metrics, count m.addLine = count m) (lines : List (List Segment)) :
    count (ofLines preferences limits lines) = lines.flatten.foldl add (count {}) := by
  induction lines using List.reverseRecOn with
  | nil => rfl
  | append_singleton lines line ih =>
    rw [ofLines_concat, hLine, addSegments_eq_foldl count add h, ih, List.flatten_concat,
      List.foldl_append]

end Segmentwise

theorem foldl_add_toNat (kind : Segment → Bool) (segments : List Segment) (n : Nat) :
    segments.foldl (fun n s => n + (kind s).toNat) n = n + segments.countP kind := by
  induction segments generalizing n with
  | nil => rfl
  | cons s segments ih =>
    rw [List.foldl_cons, ih, List.countP_cons]
    cases kind s
    · simp
    · simp only [Bool.toNat_true, if_true]
      omega

/-- A count that goes up by one for the segments of one kind. -/
theorem addSegments_eq_add_countP {count : Metrics → Nat} {kind : Segment → Bool}
    (h : ∀ (m : Metrics) (s : Segment),
      count (m.addSegment preferences limits s) = count m + (kind s).toNat)
    (m : Metrics) (line : List Segment) :
    count (m.addSegments preferences limits line) = count m + line.countP kind := by
  rw [addSegments_eq_foldl count (fun n s => n + (kind s).toNat) h, foldl_add_toNat]

/-- A count that goes up by one for the segments of one kind, and not for lines. -/
theorem ofLines_eq_countP {count : Metrics → Nat} {kind : Segment → Bool}
    (h : ∀ (m : Metrics) (s : Segment),
      count (m.addSegment preferences limits s) = count m + (kind s).toNat)
    (hLine : ∀ m : Metrics, count m.addLine = count m) (hStart : count {} = 0)
    (lines : List (List Segment)) :
    count (ofLines preferences limits lines) = lines.flatten.countP kind := by
  rw [ofLines_eq_foldl count (fun n s => n + (kind s).toNat) h hLine, foldl_add_toNat, hStart,
    Nat.zero_add]

theorem ofLines_capturedRegions (lines : List (List Segment)) :
    (ofLines preferences limits lines).capturedRegions = lines.flatten.countP Segment.isClosed :=
  ofLines_eq_countP
    (steady_capturedRegions.segment _ (fun _ => rfl) (fun _ _ _ => rfl) (fun _ _ _ => rfl))
    (fun _ => rfl) rfl lines

theorem ofLines_unterminatedRegions (lines : List (List Segment)) :
    (ofLines preferences limits lines).unterminatedRegions =
      lines.flatten.countP Segment.isUnclosed :=
  ofLines_eq_countP
    (steady_unterminatedRegions.segment _ (fun _ => rfl) (fun _ _ _ => rfl) (fun _ _ _ => rfl))
    (fun _ => rfl) rfl lines

theorem ofLines_droppedLines (lines : List (List Segment)) :
    (ofLines preferences limits lines).droppedLines = 0 := by
  have hCount : (ofLines preferences limits lines).droppedLines =
      lines.flatten.countP (fun _ => false) :=
    ofLines_eq_countP
      (steady_droppedLines.segment _ (fun _ => rfl) (fun _ _ _ => rfl) (fun _ _ _ => rfl))
      (fun _ => rfl) rfl lines
  rw [hCount, List.countP_eq_zero]
  simp

theorem addSegments_totalLines (line : List Segment) (m : Metrics) :
    (m.addSegments preferences limits line).totalLines = m.totalLines := by
  have hCount : (m.addSegments preferences limits line).totalLines =
      m.totalLines + line.countP (fun _ => false) :=
    addSegments_eq_add_countP
      (steady_totalLines.segment _ (fun _ => rfl) (fun _ _ _ => rfl) (fun _ _ _ => rfl)) m line
  rw [hCount, Nat.add_eq_left, List.countP_eq_zero]
  simp

theorem ofLines_totalLines (lines : List (List Segment)) :
    (ofLines preferences limits lines).totalLines = lines.length := by
  induction lines using List.reverseRecOn with
  | nil => rfl
  | append_singleton lines line ih =>
    have hLine (m : Metrics) :
        (m.addSegments preferences limits line).addLine.totalLines = m.totalLines + 1 :=
      congrArg (· + 1) (addSegments_totalLines line m)
    rw [ofLines_concat, hLine, ih, List.length_append, List.length_singleton]

end Lineation.Metrics
