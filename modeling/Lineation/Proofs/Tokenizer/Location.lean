import Lineation.Proofs.Tokenizer.Warnings

/-!
# Where a warning about a region points

A warning about a region has the number of the record that holds the region. That is the source line
of the region only as long as every newline ends a record. A region may take newlines, though, and
those that end no record are not counted: all warnings after them point to a line too early, by one
for each.

* `Site`: a segment of a text, with everything before it.
* `Layout.number_add_uncounted`: how far the number of a record is behind its source line.
* `Tokenizer.tokenize_locates_regions`: the warnings of a run, each with what it is about.
-/

namespace Lineation

open Diagnostics

/-- A segment of a text: the lines before its own, and the stretches of its own line before it. -/
structure Site where
  earlier : List (List Stretch)
  front : List Stretch
  segment : Segment

namespace Site

/-- The number of the record that has the segment. -/
def number (site : Site) : Nat := site.earlier.length + 1

/-- The characters of the text before the segment. -/
def before (site : Site) : List Char :=
  site.earlier.flatten.flatMap Stretch.chars ++ site.front.flatMap Stretch.chars

/-- How many of the newlines before the segment are not the last character of a record. -/
def uncounted (site : Site) : Nat :=
  (site.earlier.map fun line => (line.flatMap Stretch.chars).dropLast.count '\n').sum +
    (site.front.flatMap Stretch.chars).count '\n'

end Site

/-- The sites of the segments of a line, with the lines and the stretches before them. -/
def sitesIn (earlier : List (List Stretch)) (front : List Stretch) : List Stretch → List Site
  | [] => []
  | .gap c :: line => sitesIn earlier (front ++ [.gap c]) line
  | .segment s :: line => ⟨earlier, front, s⟩ :: sitesIn earlier (front ++ [.segment s]) line

/-- The sites of the segments of some lines, with the lines before them. -/
def sitesAfter (earlier : List (List Stretch)) : List (List Stretch) → List Site
  | [] => []
  | line :: lines => sitesIn earlier [] line ++ sitesAfter (earlier ++ [line]) lines

/-! ## Places in lines -/

theorem mem_sitesIn {earlier : List (List Stretch)} {front line : List Stretch} {site : Site}
    (h : site ∈ sitesIn earlier front line) :
    site.earlier = earlier ∧
      ∃ back, front ++ line = site.front ++ .segment site.segment :: back := by
  induction line generalizing front with
  | nil => cases h
  | cons stretch line ih =>
    rw [List.append_cons]
    cases stretch with
    | gap c => exact ih h
    | segment s =>
      rcases List.mem_cons.mp h with rfl | hLater
      · exact ⟨rfl, line, List.append_assoc _ _ _⟩
      · exact ih hLater

theorem mem_sitesAfter {earlier lines : List (List Stretch)} {site : Site}
    (h : site ∈ sitesAfter earlier lines) :
    ∃ back later, earlier ++ lines =
      site.earlier ++ (site.front ++ .segment site.segment :: back) :: later := by
  induction lines generalizing earlier with
  | nil => cases h
  | cons line lines ih =>
    rcases List.mem_append.mp h with hLine | hLater
    · obtain ⟨hEarlier, back, hBack⟩ := mem_sitesIn hLine
      refine ⟨back, lines, ?_⟩
      rw [hEarlier, ← hBack, List.nil_append]
    · obtain ⟨back, later, hLines⟩ := ih hLater
      refine ⟨back, later, ?_⟩
      rw [← hLines, List.append_assoc]
      rfl

namespace Tokenizer

theorem lineWarnings_eq_flatMap (t : Tokenizer) (earlier : List (List Stretch))
    (front line : List Stretch) :
    t.lineWarnings (earlier.length + 1) line =
      (sitesIn earlier front line).flatMap fun site =>
        t.segmentWarnings site.number site.segment := by
  induction line generalizing front with
  | nil => rfl
  | cons stretch line ih =>
    cases stretch with
    | gap c => exact ih (front ++ [.gap c])
    | segment s =>
      rw [sitesIn, List.flatMap_cons, ← ih]
      rfl

theorem warnings_append (t : Tokenizer) (earlier lines : List (List Stretch)) :
    t.warnings (earlier ++ lines) = t.warnings earlier ++
      (sitesAfter earlier lines).flatMap fun site =>
        t.segmentWarnings site.number site.segment := by
  induction lines generalizing earlier with
  | nil => simp [sitesAfter]
  | cons line lines ih =>
    rw [List.append_cons, ih, warnings_concat, lineWarnings_eq_flatMap t earlier [],
      List.append_assoc, sitesAfter, List.flatMap_append]

end Tokenizer

/-! ## Newlines before a site -/

theorem count_newline_of_getLast? {chars : List Char} (h : chars.getLast? = some '\n') :
    chars.count '\n' = chars.dropLast.count '\n' + 1 := by
  rw [← List.dropLast_append_getLast? '\n' h, List.count_append, List.dropLast_concat]
  rfl

theorem count_newline_flatten {lines : List (List Stretch)}
    (h : ∀ line ∈ lines, (line.flatMap Stretch.chars).getLast? = some '\n') :
    (lines.flatten.flatMap Stretch.chars).count '\n' =
      (lines.map fun line => (line.flatMap Stretch.chars).dropLast.count '\n').sum +
        lines.length := by
  induction lines with
  | nil => rfl
  | cons line lines ih =>
    obtain ⟨hLine, hLines⟩ := List.forall_mem_cons.mp h
    rw [List.flatten_cons, List.flatMap_append, List.count_append, ih hLines,
      count_newline_of_getLast? hLine, List.map_cons, List.sum_cons, List.length_cons]
    omega

namespace Layout

variable {t : Tokenizer} {text : List Char} {s : Scan} {lines : List (List Stretch)}
  {tail : List Char} {site : Site}

theorem before_append_prefix (h : Layout t text s lines tail)
    (hSite : site ∈ sitesAfter [] lines) : site.before ++ site.segment.chars <+: text := by
  obtain ⟨back, later, hLines⟩ := mem_sitesAfter hSite
  rw [List.nil_append] at hLines
  refine ⟨back.flatMap Stretch.chars ++ later.flatten.flatMap Stretch.chars ++ tail, ?_⟩
  rw [h.text_eq, hLines]
  simp [Site.before, Stretch.chars]

/-- The number of a record, with the newlines before a site in it that ended no record, is the
source line of the site. -/
theorem number_add_uncounted (h : Layout t text s lines tail)
    (hSite : site ∈ sitesAfter [] lines) :
    site.number + site.uncounted = site.before.count '\n' + 1 := by
  obtain ⟨back, later, hLines⟩ := mem_sitesAfter hSite
  rw [List.nil_append] at hLines
  -- only the last line may end without a newline, and the line of the site comes after these
  have hEnded : ∀ line ∈ site.earlier, (line.flatMap Stretch.chars).getLast? = some '\n' := by
    intro line hLine
    obtain ⟨i, hi, rfl⟩ := List.mem_iff_getElem.mp hLine
    have hLength := congrArg List.length hLines
    rw [List.length_append, List.length_cons] at hLength
    rcases h.getLast?_chars (i := i) (by omega) with hEnd | ⟨hLast, -⟩
    · simpa only [hLines, List.getElem_append_left hi] using hEnd
    · omega
  rw [Site.before, List.count_append, count_newline_flatten hEnded, Site.number, Site.uncounted]
  omega

end Layout

/-! ## Runs -/

/-- Whether an event is a warning about a region. -/
def Diagnostics.Event.isAboutRegion (event : Event) : Bool :=
  event.code == .regionUnterminated || event.code == .longRegion

namespace Tokenizer

theorem isAboutRegion_of_mem_segmentWarnings {t : Tokenizer} {number : Nat} {segment : Segment}
    {event : Event} (h : event ∈ t.segmentWarnings number segment) :
    event.isAboutRegion = true := by
  obtain ⟨-, -, hCode, -⟩ := exists_of_mem_segmentWarnings h
  simpa [Event.isAboutRegion] using hCode

theorem filter_isAboutRegion_events (t : Tokenizer) (text : String) {lines : List (List Stretch)}
    {tail : List Char} (hLayout : Layout t text.toList (t.scan text.toList) lines tail) :
    (t.tokenize text).events.filter Event.isAboutRegion =
      (sitesAfter [] lines).flatMap fun site => t.segmentWarnings site.number site.segment := by
  have hWarnings : t.warnings lines =
      (sitesAfter [] lines).flatMap fun site => t.segmentWarnings site.number site.segment :=
    t.warnings_append [] lines
  have hAbout : (t.warnings lines).filter Event.isAboutRegion = t.warnings lines := by
    rw [List.filter_eq_self]
    intro event hMem
    rw [hWarnings] at hMem
    obtain ⟨site, -, hEvent⟩ := List.mem_flatMap.mp hMem
    exact isAboutRegion_of_mem_segmentWarnings hEvent
  have hTokens : (t.tokenWarning (t.tokenize text).metrics).filter Event.isAboutRegion = [] := by
    rw [List.filter_eq_nil_iff]
    intro event hMem
    rw [tokenWarning, List.mem_ite_nil_right, List.mem_singleton] at hMem
    rw [hMem.2]
    simp only [Event.isAboutRegion, Event.code_notes]
    decide
  have hStarted : (t.started text).isAboutRegion = false := by
    simp only [Event.isAboutRegion, started, Event.code_notes]
    decide
  have hCompleted : (completed (t.tokenize text).metrics
      (t.tokenize text).records.length).isAboutRegion = false := by
    simp only [Event.isAboutRegion, completed, Event.code_notes]
    decide
  rw [t.events_eq text hLayout, List.cons_append, List.cons_append,
    List.filter_cons_of_neg (by simp [hStarted]), List.filter_append, List.filter_append, hAbout,
    hTokens, List.filter_cons_of_neg (by simp [hCompleted]), hWarnings]
  simp

/-- A warning about a region has the number of the record in which the region opens. With the
newlines before the region that are not the last character of a record, this is the source line of
its opening text. So the line is right just if there are no such newlines, and too early
otherwise. -/
theorem tokenize_locates_regions (t : Tokenizer) (text : String) :
    let run := t.tokenize text
    ∃ lines : List (List Stretch),
      run.records = t.records lines ∧
      (∀ stretch ∈ lines.flatten, stretch.Valid t) ∧
      run.events.filter Event.isAboutRegion =
        (sitesAfter [] lines).flatMap (fun site =>
          t.segmentWarnings site.number site.segment) ∧
      ∀ site ∈ sitesAfter [] lines,
        ∀ event ∈ t.segmentWarnings site.number site.segment,
          (∃ rule body, (site.segment = .closed rule body ∨ site.segment = .unclosed rule body) ∧
            site.before ++ rule.opening.toList <+: text.toList) ∧
          ∃ line, event.line = some line ∧
            line + site.uncounted = site.before.count '\n' + 1 ∧
            (event.line = some (site.before.count '\n' + 1) ↔ site.uncounted = 0) := by
  intro run
  obtain ⟨lines, tail, hLayout, hRecords, -⟩ := exists_layout_tokenize t text
  refine ⟨lines, hRecords, hLayout.valid, t.filter_isAboutRegion_events text hLayout, ?_⟩
  intro site hSite event hEvent
  obtain ⟨-, hLine, -, rule, body, hSegment⟩ := exists_of_mem_segmentWarnings hEvent
  have hOpening : rule.opening.toList <+: site.segment.chars := by
    rcases hSegment with hClosed | hUnclosed
    · rw [hClosed, Segment.chars_closed]
      exact List.prefix_append _ _
    · rw [hUnclosed, Segment.chars_unclosed]
      exact List.prefix_append _ _
  have hNumber := hLayout.number_add_uncounted hSite
  refine ⟨⟨rule, body, hSegment, ?_⟩, site.number, hLine, hNumber, ?_⟩
  · have hBefore : site.before ++ rule.opening.toList <+: site.before ++ site.segment.chars :=
      (List.prefix_append_right_inj _).mpr hOpening
    exact hBefore.trans (hLayout.before_append_prefix hSite)
  · rw [hLine, Option.some.injEq]
    omega

/-- The quotation mark is on the second line, and the warning about it points to the first. -/
theorem line_of_region_after_newline_in_region :
    let run := (ofRuleSet .cLike {}).tokenize "/*\n*/\"x"
    run.records.map LineRecord.texts = [["/*", "\n", "*/", "\"", "x"]] ∧
      (run.events.filter Event.isAboutRegion).map (fun event => (event.code, event.line)) =
        [(.regionUnterminated, some 1)] ∧
      "/*\n*/".toList.count '\n' + 1 = 2 := by
  refine ⟨?_, ?_, ?_⟩ <;> cbv

end Tokenizer

end Lineation
