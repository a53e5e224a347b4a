import Mathlib.Algebra.GroupWithZero.Nat
import Lineation.Diagnostics.Collector
import Lineation.Proofs.Files.Path

/-!
# What a collector holds

* `Collector.updateIn_perm`: a file that is first met adds one entry and leaves the others alone.
* `Collector.events_cases`: the events of a path are those of its entry, or there are none.
* `Collector.keep`: what is kept of the events of a file. Below the limit it is all of them
  (`Collector.toList_keep`), and above it no error is made up (`Collector.isError_of_mem_keep`).
* `Collector.summary_eq`: the summary counts the entries and adds up their errors and warnings.
-/

namespace Lineation.Diagnostics

/-- Whether an event is collected for the file that is being read. -/
def Event.isNoted (event : Event) : Bool := event.isError || event.isWarning

namespace Collector

variable {path : Path} {files : List (Path × Array Event)} {kept : Array Event} {event : Event}
  {limit : Nat}

/-! ## Entries -/

theorem updateIn_updateIn (path : Path) (f g : Array Event → Array Event)
    (files : List (Path × Array Event)) :
    updateIn path g (updateIn path f files) = updateIn path (g ∘ f) files := by
  induction files with
  | nil => simp [updateIn]
  | cons entry files ih =>
    obtain ⟨other, events⟩ := entry
    cases hOrder : path.compare other <;> simp [updateIn, hOrder, ih]

theorem update_update (collector : Collector) (path : Path) (f g : Array Event → Array Event) :
    (collector.update path f).update path g = collector.update path (g ∘ f) :=
  congrArg (Collector.mk · collector.limit) (updateIn_updateIn path f g collector.files)

/-- A path that has no entry gets one. -/
theorem updateIn_perm (hNew : ∀ entry ∈ files, path.components ≠ entry.1.components)
    (f : Array Event → Array Event) : (updateIn path f files).Perm ((path, f #[]) :: files) := by
  induction files with
  | nil => exact List.Perm.refl _
  | cons entry files ih =>
    obtain ⟨other, events⟩ := entry
    have hRest := ih fun entry hMem => hNew entry (List.mem_cons_of_mem _ hMem)
    cases hOrder : path.compare other with
    | eq => exact absurd (Path.compare_eq_iff.mp hOrder) (hNew _ List.mem_cons_self)
    | lt => simp [updateIn, hOrder]
    | gt =>
      simp only [updateIn, hOrder]
      exact (hRest.cons _).trans (List.Perm.swap _ _ _)

/-- The events of a path are those of an entry of it, or it has no entry and no events. -/
theorem events_cases (collector : Collector) (path : Path) :
    (∃ entry ∈ collector.files, path.components = entry.1.components ∧
      collector.events path = entry.2) ∨
    (∀ entry ∈ collector.files, path.components ≠ entry.1.components) ∧
      collector.events path = #[] := by
  unfold Collector.events
  split
  · rename_i other events hFound
    have hSame : path.compare other = .eq := by simpa using List.find?_some hFound
    exact Or.inl ⟨_, List.mem_of_find?_eq_some hFound, Path.compare_eq_iff.mp hSame, rfl⟩
  · rename_i hNone
    refine Or.inr ⟨fun entry hMem hSame => ?_, rfl⟩
    have hNe := List.find?_eq_none.mp hNone entry hMem
    simp [Path.compare_eq_iff.mpr hSame] at hNe

/-! ## Events of a file -/

/-- What is kept within a limit when events follow those that were kept before. -/
def keep (limit : Nat) (events : List Event) (kept : Array Event) : Array Event :=
  events.foldl (fun kept event => addEvent limit event kept) kept

theorem keep_cons (limit : Nat) (event : Event) (events : List Event) (kept : Array Event) :
    keep limit (event :: events) kept = keep limit events (addEvent limit event kept) := rfl

/-- Events are kept as they come while there is room. -/
theorem toList_keep {events : List Event}
    (hRoom : kept.size + events.length ≤ limit) :
    (keep limit events kept).toList = kept.toList ++ events := by
  induction events generalizing kept with
  | nil => simp [keep]
  | cons event events ih =>
    rw [List.length_cons] at hRoom
    have hAdd : addEvent limit event kept = kept.push event := by
      rw [addEvent, if_pos (by omega)]
    rw [keep_cons, hAdd, ih (by rw [Array.size_push]; omega)]
    simp

theorem isError_of_mem_addEvent (hKept : ∀ other ∈ kept.toList, other.isError = false)
    (hEvent : event.isError = false) : ∀ other ∈ (addEvent limit event kept).toList,
      other.isError = false := by
  unfold addEvent
  split
  · simpa [or_imp, forall_and] using ⟨by simpa using hKept, hEvent⟩
  · split
    · simpa [or_imp, forall_and] using ⟨by simpa using hKept, rfl⟩
    · exact hKept

/-- Only errors give errors. -/
theorem isError_of_mem_keep {events : List Event}
    (hKept : ∀ other ∈ kept.toList, other.isError = false)
    (hEvents : ∀ event ∈ events, event.isError = false) :
    ∀ other ∈ (keep limit events kept).toList, other.isError = false := by
  induction events generalizing kept with
  | nil => exact hKept
  | cons event events ih =>
    rw [keep_cons]
    exact ih (isError_of_mem_addEvent hKept (hEvents event List.mem_cons_self))
      fun other hMem => hEvents other (List.mem_cons_of_mem _ hMem)

/-! ## The summary -/

/-- The events of an entry that are errors. -/
def errorsIn (entry : Path × Array Event) : Nat := entry.2.countP Event.isError

def warningsIn (entry : Path × Array Event) : Nat := entry.2.countP Event.isWarning

theorem foldl_add_eq (files : List (Path × Array Event)) (summary : Summary) :
    files.foldl (fun summary (_, events) => summary.add events) summary =
      { files := summary.files + files.length
        successful := summary.successful + files.countP (errorsIn · = 0)
        failed := summary.failed + files.countP (errorsIn · ≠ 0)
        withWarnings :=
          summary.withWarnings + files.countP fun entry => errorsIn entry = 0 ∧ warningsIn entry ≠ 0
        errors := summary.errors + (files.map errorsIn).sum
        warnings := summary.warnings + (files.map warningsIn).sum } := by
  induction files generalizing summary with
  | nil => rfl
  | cons entry files ih =>
    rw [List.foldl_cons, ih]
    have hErrors : entry.2.countP Event.isError = errorsIn entry := rfl
    have hWarnings : entry.2.countP Event.isWarning = warningsIn entry := rfl
    simp only [Summary.add, hErrors, hWarnings, List.countP_cons, List.length_cons, List.map_cons,
      List.sum_cons, Nat.add_assoc]
    by_cases hFailed : errorsIn entry = 0 <;> by_cases hWarned : warningsIn entry = 0 <;>
      simp [hFailed, hWarned, Nat.pos_iff_ne_zero, Nat.add_comm, Nat.add_assoc]

theorem summary_eq (collector : Collector) :
    collector.summary =
      { files := collector.files.length
        successful := collector.files.countP (errorsIn · = 0)
        failed := collector.files.countP (errorsIn · ≠ 0)
        withWarnings :=
          collector.files.countP fun entry => errorsIn entry = 0 ∧ warningsIn entry ≠ 0
        errors := (collector.files.map errorsIn).sum
        warnings := (collector.files.map warningsIn).sum } := by
  exact (foldl_add_eq collector.files {}).trans (by simp only [Nat.zero_add])

/-! ## The codes of errors -/

/-- The codes of the errors among some events. -/
def codesOf (events : Array Event) : List Code :=
  (events.toList.filter Event.isError).map Event.code

/-- The codes of the errors of each file. -/
def errorCodes (collector : Collector) : List (Path × List Code) :=
  collector.files.map fun (path, events) => (path, codesOf events)

theorem length_codesOf (entry : Path × Array Event) :
    (codesOf entry.2).length = errorsIn entry := by
  rw [codesOf, List.length_map, ← List.countP_eq_length_filter, Array.countP_toList, errorsIn]

theorem codesOf_eq_nil_iff (entry : Path × Array Event) :
    codesOf entry.2 = [] ↔ errorsIn entry = 0 := by
  rw [← length_codesOf, List.length_eq_zero_iff]

/-- A path that has no entry gets one, and the others keep their errors. -/
theorem errorCodes_update_perm {collector : Collector}
    (hNew : ∀ entry ∈ collector.errorCodes, path.components ≠ entry.1.components)
    (f : Array Event → Array Event) :
    (collector.update path f).errorCodes.Perm
      ((path, codesOf (f #[])) :: collector.errorCodes) := by
  have hFiles : ∀ entry ∈ collector.files, path.components ≠ entry.1.components :=
    fun entry hMem => hNew _ (List.mem_map_of_mem hMem)
  exact (updateIn_perm hFiles f).map fun (path, events) => (path, codesOf events)

/-- What the summary says of files and errors depends only on the codes of the errors. -/
theorem summary_eq_of_errorCodes_perm {collector : Collector} {codes : List (Path × List Code)}
    (h : collector.errorCodes.Perm codes) :
    collector.summary.files = codes.length ∧
      collector.summary.successful = codes.countP (·.2 = []) ∧
      collector.summary.failed = codes.countP (·.2 ≠ []) ∧
      collector.summary.errors = (codes.map (·.2.length)).sum := by
  rw [← h.length_eq, ← h.countP_eq, ← h.countP_eq, ← (h.map _).sum_nat, summary_eq]
  simp only [errorCodes, List.length_map, List.countP_map, List.map_map, Function.comp_def,
    length_codesOf, codesOf_eq_nil_iff, ne_eq]
  trivial

/-- The errors of a path are those of its entry, if it has only one. -/
theorem codesOf_events_eq {collector : Collector} {codes : List Code}
    (hMem : (path, codes) ∈ collector.errorCodes)
    (hOnly : ∀ entry ∈ collector.errorCodes, path.components = entry.1.components →
      entry.2 = codes) : codesOf (collector.events path) = codes := by
  rcases collector.events_cases path with ⟨entry, hEntry, hSame, hEvents⟩ | ⟨hNone, -⟩
  · rw [hEvents]
    exact hOnly _ (List.mem_map_of_mem hEntry) hSame
  · obtain ⟨entry, hEntry, hEq⟩ := List.mem_map.mp hMem
    have hPath : entry.1 = path := congrArg Prod.fst hEq
    exact absurd (congrArg Path.components hPath.symm) (hNone entry hEntry)

end Collector

end Lineation.Diagnostics
