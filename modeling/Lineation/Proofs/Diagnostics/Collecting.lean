import Mathlib.Algebra.Order.BigOperators.Group.List
import Mathlib.Data.List.Dedup
import Mathlib.Data.List.DropRight
import Lineation.Diagnostics.Calls
import Lineation.Proofs.Diagnostics.Entries

/-!
# What any calls leave in a collector

Of the events that are recorded for a file since the last clearing a collector keeps the first ones,
up to the limit, and one warning if there were more (`Collector.capped`). Which files there are and
what is kept of each is a function of the calls (`Collector.Holds`, `Collector.holds_performAll`), so
calls for other files in between change nothing, nor does it matter when a file is registered.

* `Collector.Holds.update`: what a call for a file adds.
* `Collector.Holds.perm`: the entries, apart from the spelling of their paths.
* `Collector.performAll_keeps_first`: the events of each file, and what the summary says of all.
-/

namespace Lineation.Diagnostics

namespace CollectorCall

/-- The path that a call is for. -/
def path? : CollectorCall → Option Path
  | register path => some path
  | record path _ => some path
  | clear => none

/-- The event that a call records for a file, if it does. -/
def event? (file : List PathComponent) : CollectorCall → Option Event
  | record path event => if path.components = file then some event else none
  | _ => none

end CollectorCall

namespace Collector

variable {path : Path} {file : List PathComponent} {kept : Array Event} {event : Event}
  {events : List Event} {calls : List CollectorCall} {call : CollectorCall} {collector : Collector}
  {limit : Nat}

/-! ## Events within the limit -/

/-- What is kept of some events: the first ones up to the limit, and one warning for more. -/
def capped (limit : Nat) (events : List Event) : List Event :=
  events.take limit ++
    if limit < events.length then [overflow limit] else []

theorem capped_of_length_le (h : events.length ≤ limit) :
    capped limit events = events := by
  rw [capped, List.take_of_length_le h, if_neg (Nat.not_lt.mpr h), List.append_nil]

theorem capped_nil (limit : Nat) : capped limit [] = [] := capped_of_length_le (Nat.zero_le limit)

theorem capped_of_lt_length (h : limit < events.length) :
    capped limit events = events.take limit ++ [overflow limit] := by
  rw [capped, if_pos h]

theorem length_capped_le (limit : Nat) (events : List Event) :
    (capped limit events).length ≤ limit + 1 := by
  rcases Nat.lt_or_ge limit events.length with h | h
  · rw [capped_of_lt_length h, List.length_append, List.length_singleton]
    exact Nat.add_le_add_right (List.length_take_le _ _) 1
  · rw [capped_of_length_le h]
    exact Nat.le_succ_of_le h

theorem toList_addEvent (h : kept.toList = capped limit events) (event : Event) :
    (addEvent limit event kept).toList = capped limit (events ++ [event]) := by
  have hSize : kept.size = (capped limit events).length := by rw [← h, Array.length_toList]
  have hLength : (events ++ [event]).length = events.length + 1 := by simp
  unfold addEvent
  rcases Nat.lt_trichotomy events.length limit with hLess | hEq | hMore
  · rw [capped_of_length_le (Nat.le_of_lt hLess)] at h hSize
    rw [if_pos (by omega), capped_of_length_le (by omega), Array.toList_push, h]
  · rw [capped_of_length_le (Nat.le_of_eq hEq)] at h hSize
    rw [if_neg (by omega), if_pos (by omega), capped_of_lt_length (by omega), Array.toList_push, h,
      ← hEq, List.take_left]
  · have hFull : (capped limit events).length = limit + 1 := by
      rw [capped_of_lt_length hMore, List.length_append, List.length_take, List.length_singleton]
      omega
    rw [if_neg (by omega), if_neg (by omega), h, capped_of_lt_length hMore,
      capped_of_lt_length (by omega), List.take_append_of_le_length (Nat.le_of_lt hMore)]

/-! ## Calls -/

/-- The calls after the last clearing. -/
def sinceClear (calls : List CollectorCall) : List CollectorCall :=
  calls.rtakeWhile (· ≠ .clear)

/-- The events that some calls record for a file. -/
def recorded (file : List PathComponent) (calls : List CollectorCall) : List Event :=
  calls.filterMap (CollectorCall.event? file)

/-- The files that some calls are for, each once. -/
def filesOf (calls : List CollectorCall) : List (List PathComponent) :=
  ((calls.filterMap CollectorCall.path?).map Path.components).dedup

theorem mem_filesOf_concat (h : call.path? = some path) :
    file ∈ filesOf (calls ++ [call]) ↔ file = path.components ∨ file ∈ filesOf calls := by
  simp [filesOf, h, or_comm, eq_comm]

/-- No event is recorded for a file that no call is for. -/
theorem recorded_eq_nil (h : file ∉ filesOf calls) : recorded file calls = [] := by
  rw [recorded, List.filterMap_eq_nil_iff]
  intro call hCall
  cases call with
  | register path => rfl
  | clear => rfl
  | record path event =>
    have hNe : path.components ≠ file := by
      rintro rfl
      exact h (by
        simp only [filesOf, List.mem_dedup, List.mem_map, List.mem_filterMap]
        exact ⟨path, ⟨_, hCall, rfl⟩, rfl⟩)
    exact if_neg hNe

theorem recorded_concat_of_ne (h : call.path? = some path) (hNe : path.components ≠ file) :
    recorded file (calls ++ [call]) = recorded file calls := by
  have hNone : call.event? file = none := by
    cases call with
    | register _ => rfl
    | clear => rfl
    | record other event =>
      cases h
      exact if_neg hNe
  simp [recorded, hNone]

/-! ## What a collector holds -/

/-- After some calls, of which none is a clearing, a collector has one entry for each of their files,
with what is kept of the events recorded for it. -/
structure Holds (limit : Nat) (calls : List CollectorCall) (collector : Collector) : Prop where
  limit_eq : collector.limit = limit
  ordered : Ordered collector.files
  mem_names : ∀ file, file ∈ names collector.files ↔ file ∈ filesOf calls
  kept : ∀ entry ∈ collector.files,
    entry.2.toList = capped limit (recorded entry.1.components calls)

theorem holds_clear (collector : Collector) : Holds collector.limit [] collector.clear :=
  ⟨rfl, List.Pairwise.nil, fun _ => Iff.rfl, fun _ hMem => absurd hMem List.not_mem_nil⟩

namespace Holds

/-- A call for a file changes what is kept of the events of that file, or gives it an entry. -/
theorem update (h : Holds limit calls collector) (hPath : call.path? = some path)
    {f : Array Event → Array Event}
    (hf : ∀ kept : Array Event, kept.toList = capped limit (recorded path.components calls) →
      (f kept).toList = capped limit (recorded path.components (calls ++ [call]))) :
    Holds limit (calls ++ [call]) (collector.update path f) := by
  obtain ⟨hLimit, hOrdered, hNames, hKept⟩ := h
  refine ⟨hLimit, hOrdered.updateIn path f, fun file => ?_, fun entry hMem => ?_⟩
  · rw [mem_filesOf_concat hPath, ← hNames]
    exact hOrdered.mem_names_updateIn
  · rcases hOrdered.of_mem_updateIn hMem with ⟨hOld, hNe⟩ | ⟨hSame, events, hEvents, hBefore⟩
    · rw [recorded_concat_of_ne hPath hNe]
      exact hKept entry hOld
    · rw [hEvents, ← hSame]
      refine hf events ?_
      rcases hBefore with hOld | ⟨rfl, hNew⟩
      · rw [hSame]
        exact hKept _ hOld
      · rw [hNames] at hNew
        rw [recorded_eq_nil hNew, capped_nil]

theorem perform (h : Holds limit calls collector) (hCall : call ≠ .clear) :
    Holds limit (calls ++ [call]) (collector.perform call) := by
  cases call with
  | clear => exact absurd rfl hCall
  | register path =>
    refine h.update rfl fun kept hKept => ?_
    have hNext : recorded path.components (calls ++ [.register path]) =
        recorded path.components calls := by
      simp [recorded, CollectorCall.event?]
    rw [hNext]
    exact hKept
  | record path event =>
    refine h.update rfl fun kept hKept => ?_
    have hNext : recorded path.components (calls ++ [.record path event]) =
        recorded path.components calls ++ [event] := by
      simp [recorded, CollectorCall.event?]
    rw [hNext, h.limit_eq]
    exact toList_addEvent hKept event

end Holds

theorem holds_performAll (limit : Nat) (calls : List CollectorCall) :
    Holds limit (sinceClear calls) (performAll { limit } calls) := by
  induction calls using List.reverseRecOn with
  | nil => exact holds_clear { limit }
  | append_singleton calls call ih =>
    rw [performAll, List.foldl_append, sinceClear, List.rtakeWhile_concat]
    by_cases hCall : call = .clear
    · rw [if_neg (by simpa using hCall), hCall]
      have hLimit : (performAll { limit } calls).limit = limit := ih.limit_eq
      have hClear := holds_clear (performAll { limit } calls)
      rwa [hLimit] at hClear
    · rw [if_pos (by simpa using hCall)]
      exact ih.perform hCall

namespace Holds

theorem toList_events (h : Holds limit calls collector) (path : Path) :
    (collector.events path).toList = capped limit (recorded path.components calls) := by
  rcases collector.events_cases path with ⟨entry, hEntry, hSame, hEvents⟩ | ⟨hNone, hEvents⟩
  · rw [hEvents, hSame]
    exact h.kept entry hEntry
  · have hNew : path.components ∉ filesOf calls := by
      rw [← h.mem_names]
      intro hMem
      obtain ⟨entry, hEntry, hEq⟩ := List.mem_map.mp hMem
      exact hNone entry hEntry hEq.symm
    rw [hEvents, recorded_eq_nil hNew, capped_nil]

/-- The entries are one for each file, with what is kept of its events. -/
theorem perm (h : Holds limit calls collector) :
    (collector.files.map fun entry => (entry.1.components, entry.2.toList)).Perm
      ((filesOf calls).map fun file => (file, capped limit (recorded file calls))) := by
  have hNames : (names collector.files).Perm (filesOf calls) :=
    (List.perm_ext_iff_of_nodup h.ordered.nodup_names (List.nodup_dedup _)).mpr h.mem_names
  have hEntries : (collector.files.map fun entry => (entry.1.components, entry.2.toList)) =
      (names collector.files).map fun file => (file, capped limit (recorded file calls)) := by
    rw [names, List.map_map]
    exact List.map_congr_left fun entry hMem => by rw [h.kept entry hMem]; rfl
  rw [hEntries]
  exact hNames.map _

theorem files_eq (h : Holds limit calls collector) :
    collector.summary.files = (filesOf calls).length := by
  rw [summary_eq]
  simpa using h.perm.length_eq

theorem countP_files (h : Holds limit calls collector) (p : List Event → Bool) :
    (collector.files.countP fun entry => p entry.2.toList) =
      (filesOf calls).countP fun file => p (capped limit (recorded file calls)) := by
  simpa [List.countP_map, Function.comp_def] using h.perm.countP_eq fun pair => p pair.2

theorem sum_files (h : Holds limit calls collector) (g : List Event → Nat) :
    (collector.files.map fun entry => g entry.2.toList).sum =
      ((filesOf calls).map fun file => g (capped limit (recorded file calls))).sum := by
  simpa [Function.comp_def] using (h.perm.map fun pair => g pair.2).sum_nat

end Holds

/-! ## The events of each file, and the summary -/

theorem total_eq_sum (collector : Collector) :
    collector.total = (collector.files.map fun entry => entry.2.toList.length).sum := by
  rw [total, List.sum_eq_foldl, List.foldl_map]
  rfl

/-- Each file went well or not, and only those that went well are told to have warnings. -/
theorem summary_successful_add_failed (collector : Collector) :
    collector.summary.successful + collector.summary.failed = collector.summary.files ∧
      collector.summary.withWarnings ≤ collector.summary.successful := by
  rw [summary_eq]
  refine ⟨?_, List.countP_mono_left ?_⟩
  · have hBoth := List.length_eq_countP_add_countP (fun entry => decide (errorsIn entry = 0))
      (l := collector.files)
    simpa using hBoth.symm
  · simp +contextual

/-- The events of a file are the first ones recorded for it since the last clearing, up to the limit,
and then one warning exactly if there were more. The summary counts the files that there were calls
for since then, and the errors and warnings that are kept of each. -/
theorem performAll_keeps_first (limit : Nat) (calls : List CollectorCall) :
    let collector := performAll { limit } calls
    let since := sinceClear calls
    let files := filesOf since
    let kept := fun file => capped limit (recorded file since)
    (∀ path, (collector.events path).toList =
      (recorded path.components since).take limit ++
        if limit < (recorded path.components since).length then [overflow limit] else []) ∧
    ((overflow limit).level = .warning ∧ (overflow limit).code = .plainWarning) ∧
    collector.summary.files = files.length ∧
    collector.summary.successful + collector.summary.failed = collector.summary.files ∧
    collector.summary.withWarnings ≤ collector.summary.successful ∧
    collector.summary.errors = (files.map fun file => (kept file).countP Event.isError).sum ∧
    collector.summary.warnings = (files.map fun file => (kept file).countP Event.isWarning).sum ∧
    collector.total = (files.map fun file => (kept file).length).sum ∧
    collector.total ≤ collector.summary.files * (limit + 1) := by
  intro collector since files kept
  have hHolds : Holds limit since collector := holds_performAll limit calls
  have hFiles : collector.summary.files = files.length := hHolds.files_eq
  have hTotal : collector.total = (files.map fun file => (kept file).length).sum := by
    rw [total_eq_sum]
    exact hHolds.sum_files List.length
  obtain ⟨hBoth, hWarned⟩ := collector.summary_successful_add_failed
  refine ⟨hHolds.toList_events, ⟨rfl, rfl⟩, hFiles, hBoth, hWarned, ?_, ?_, hTotal, ?_⟩
  · have hErrors := hHolds.sum_files (List.countP Event.isError)
    simp only [Array.countP_toList] at hErrors
    rw [summary_eq]
    exact hErrors
  · have hWarnings := hHolds.sum_files (List.countP Event.isWarning)
    simp only [Array.countP_toList] at hWarnings
    rw [summary_eq]
    exact hWarnings
  · have hBound : ∀ n ∈ files.map fun file => (kept file).length,
        n ≤ limit + 1 := by
      simpa using fun file _ => length_capped_le limit _
    rw [hTotal, hFiles]
    simpa using List.sum_le_card_nsmul _ _ hBound

end Collector

end Lineation.Diagnostics
