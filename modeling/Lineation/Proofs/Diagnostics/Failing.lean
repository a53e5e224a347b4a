import Lineation.Proofs.Diagnostics.Collecting

/-!
# Which files count as failed

The limit on the events of a file holds for errors as for all other events. An error that is
recorded for a file that is full is not kept, and the file then counts as one that went well
(`Collector.error_past_limit`). What does count is an error among the first events
(`Collector.failed_iff_error_within_limit`): the warning that stands for all others is none.
-/

namespace Lineation.Diagnostics.Collector

variable {path : Path} {calls : List CollectorCall} {collector : Collector} {limit : Nat}

/-- The warning that stands for more events is no error. -/
theorem any_isError_capped (limit : Nat) (events : List Event) :
    (capped limit events).any Event.isError =
      (events.take limit).any Event.isError := by
  rcases Nat.lt_or_ge limit events.length with h | h
  · have hOverflow : (overflow limit).isError = false := rfl
    simp [capped_of_lt_length h, hOverflow]
  · rw [capped_of_length_le h, List.take_of_length_le h]

theorem Holds.hasErrors_eq (h : Holds limit calls collector) (path : Path) :
    collector.hasErrors path =
      ((recorded path.components calls).take limit).any Event.isError := by
  rw [hasErrors, ← Array.any_toList, h.toList_events, any_isError_capped]

theorem any_isError_iff (entry : Path × Array Event) :
    entry.2.toList.any Event.isError = true ↔ errorsIn entry ≠ 0 := by
  rw [errorsIn, ← Array.countP_toList, ← Nat.pos_iff_ne_zero, List.countP_pos_iff, List.any_eq_true]

/-- Which files have an error among their first events. -/
def failing (limit : Nat) (calls : List CollectorCall) : List (List PathComponent) :=
  (filesOf calls).filter fun file =>
    ((recorded file calls).take limit).any Event.isError

theorem Holds.failed_eq (h : Holds limit calls collector) :
    collector.summary.failed = (failing limit calls).length := by
  have hFailed : collector.files.countP (errorsIn · ≠ 0) =
      collector.files.countP fun entry => entry.2.toList.any Event.isError :=
    List.countP_congr fun entry _ => by rw [any_isError_iff, decide_eq_true_iff]
  rw [summary_eq, failing, ← List.countP_eq_length_filter]
  simp only [← any_isError_capped, ← h.countP_files fun events => events.any Event.isError]
  exact hFailed

/-- Each file is failing or not. -/
theorem length_failing_add (limit : Nat) (calls : List CollectorCall) :
    (failing limit calls).length + ((filesOf calls).filter (· ∉ failing limit calls)).length =
      (filesOf calls).length := by
  have hFailing : (filesOf calls).filter (· ∈ failing limit calls) = failing limit calls :=
    List.filter_congr fun file hMem => by
      rw [Bool.eq_iff_iff, decide_eq_true_iff, failing, List.mem_filter, and_iff_right hMem]
  have hFiles := List.length_eq_countP_add_countP (· ∈ failing limit calls) (l := filesOf calls)
  rw [List.countP_eq_length_filter, List.countP_eq_length_filter, hFailing] at hFiles
  simpa using hFiles.symm

theorem Holds.successful_eq (h : Holds limit calls collector) :
    collector.summary.successful = ((filesOf calls).filter (· ∉ failing limit calls)).length := by
  have hBoth := (summary_successful_add_failed collector).1
  rw [h.failed_eq, h.files_eq, ← length_failing_add limit] at hBoth
  omega

theorem mem_failing_iff :
    path.components ∈ failing limit calls ↔
      ∃ event ∈ (recorded path.components calls).take limit,
        event.isError = true := by
  rw [failing, List.mem_filter, List.any_eq_true]
  refine and_iff_right_of_imp ?_
  rintro ⟨event, hMem, -⟩
  by_contra hNew
  rw [recorded_eq_nil hNew] at hMem
  simp at hMem

/-- One event recorded for a file several times, and then another. -/
def flood (path : Path) (n : Nat) (first last : Event) : List CollectorCall :=
  List.replicate n (.record path first) ++ [.record path last]

section Flood

variable {first last : Event} {n : Nat}

theorem recorded_flood :
    recorded path.components (flood path n first last) = List.replicate n first ++ [last] := by
  simp [recorded, flood, CollectorCall.event?]

theorem filesOf_flood : filesOf (flood path n first last) = [path.components] := by
  have hMet : ((flood path n first last).filterMap CollectorCall.path?).map Path.components =
      List.replicate (n + 1) path.components := by
    have hFirst : (CollectorCall.record path first).path? = some path := rfl
    have hLast : (CollectorCall.record path last).path? = some path := rfl
    simp [flood, hFirst, hLast, List.replicate_succ']
  rw [filesOf, hMet, List.replicate_dedup (Nat.succ_ne_zero n)]

theorem sinceClear_flood : sinceClear (flood path n first last) = flood path n first last := by
  rw [sinceClear, List.rtakeWhile_eq_self_iff]
  intro call hCall
  rcases List.mem_append.mp hCall with hCall | hCall
  · simp [List.eq_of_mem_replicate hCall]
  · simp [List.mem_singleton.mp hCall]

/-- Of a file that is full the next event plays no part. -/
theorem failing_flood (hFull : n = limit) (hFirst : first.isError = false) :
    failing limit (flood path n first last) = [] := by
  have hKept : (recorded path.components (flood path n first last)).take
      limit = List.replicate n first := by
    rw [recorded_flood, ← hFull, List.take_left' List.length_replicate]
  rw [failing, filesOf_flood]
  simp [hKept, hFirst]

end Flood

/-- A file is said to have errors exactly if there is one among the first events that are recorded
for it since the last clearing, up to the limit. Such a file is one of those that count as failed,
and all others count as having gone well. -/
theorem failed_iff_error_within_limit (limit : Nat) (calls : List CollectorCall) :
    let collector := performAll { limit } calls
    let since := sinceClear calls
    (∀ path, collector.hasErrors path = true ↔
      ∃ event ∈ (recorded path.components since).take limit,
        event.isError = true) ∧
    (∀ path, path.components ∈ failing limit since ↔ collector.hasErrors path = true) ∧
    collector.summary.failed = (failing limit since).length ∧
    collector.summary.successful = ((filesOf since).filter (· ∉ failing limit since)).length := by
  intro collector since
  have hHolds : Holds limit since collector := holds_performAll limit calls
  have hErrors : ∀ path, collector.hasErrors path = true ↔
      ∃ event ∈ (recorded path.components since).take limit,
        event.isError = true := by
    intro path
    rw [hHolds.hasErrors_eq, List.any_eq_true]
  exact ⟨hErrors, fun path => mem_failing_iff.trans (hErrors path).symm, hHolds.failed_eq,
    hHolds.successful_eq⟩

/-- A thousand warnings leave no room for the error that follows: the file is said to have no errors
and counts as one that went well. -/
theorem error_past_limit :
    let path : Path := ⟨"flood"⟩
    let error := Event.error .fileNotFound "late"
    let calls := flood path 1000 (.warning .plainWarning "again") error
    error ∈ recorded path.components (sinceClear calls) ∧ error.isError = true ∧
      (performAll {} calls).hasErrors path = false ∧
      (performAll {} calls).summary.failed = 0 ∧ (performAll {} calls).summary.successful = 1 := by
  intro path error calls
  have hCalls : sinceClear calls = calls := sinceClear_flood
  have hHolds : Holds 1000 calls (performAll {} calls) := by
    have hSince := holds_performAll 1000 calls
    rwa [hCalls] at hSince
  have hFailing : failing 1000 calls = [] := failing_flood rfl rfl
  refine ⟨?_, rfl, ?_, ?_, ?_⟩
  · rw [hCalls, recorded_flood]
    exact List.mem_append_right _ List.mem_cons_self
  · have hNone : path.components ∉ failing 1000 calls := by simp [hFailing]
    rw [mem_failing_iff, ← List.any_eq_true, ← hHolds.hasErrors_eq] at hNone
    exact Bool.eq_false_iff.mpr hNone
  · rw [hHolds.failed_eq, hFailing]
    rfl
  · rw [hHolds.successful_eq, hFailing, filesOf_flood]
    rfl

end Lineation.Diagnostics.Collector
