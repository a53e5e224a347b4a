import Mathlib.Data.List.DropRight
import Mathlib.Data.List.Induction
import Lineation.Diagnostics.Calls

/-!
# Where events arrive

A buffer keeps the latest of the events that were pushed since it was last cleared, as many as it
has room for (`EventBuffer.Keeps`). One that is full drops as many old events as the new one needs
room, which is never more than it has.

Events come to a buffer through a tree of sinks. Each way from the top of the tree to the buffer has
the thresholds that stand on it (`Sink.ways`), and an event arrives once for each way on which all
thresholds admit its level (`Sink.count_targets`). So what arrives in a buffer can be read off the
calls of the service, each with the threshold that is in force (`arrived`), and the buffer keeps the
latest of that (`Service.keeps_performAll`).
-/

namespace Lineation.Diagnostics

/-! ## Buffers -/

/-- The event that a call pushes, if it does. -/
def BufferCall.event? : BufferCall → Option Event
  | push event => some event
  | clear => none

namespace EventBuffer

variable {capacity : Nat} {events : List Event} {event : Event} {buffer : EventBuffer}
  {calls : List BufferCall}

/-- The events that were pushed since the last clearing. -/
def pushed (calls : List BufferCall) : List Event :=
  (calls.rtakeWhile (· ≠ .clear)).filterMap BufferCall.event?

theorem pushed_concat_push : pushed (calls ++ [.push event]) = pushed calls ++ [event] := by
  simp [pushed, BufferCall.event?]

theorem pushed_concat_clear : pushed (calls ++ [.clear]) = [] := by
  simp [pushed]

theorem toList_push (buffer : EventBuffer) (event : Event) :
    (buffer.push event).events.toList =
      buffer.events.toList.drop (buffer.events.size + 1 - buffer.capacity) ++ [event] := by
  unfold push
  dsimp only
  rw [Array.toList_push]
  split
  · simp [List.take_of_length_le]
  · rw [Nat.sub_eq_zero_of_le (by omega), List.drop_zero]

/-- A buffer has the latest of some events. -/
structure Keeps (capacity : Nat) (events : List Event) (buffer : EventBuffer) : Prop where
  capacity_eq : buffer.capacity = capacity
  toList_eq : buffer.events.toList = events.rtake capacity

namespace Keeps

theorem size_eq (h : Keeps capacity events buffer) :
    buffer.events.size = min events.length capacity := by
  rw [← Array.length_toList, h.toList_eq, List.rtake, List.length_drop]
  omega

theorem push (h : Keeps capacity events buffer) (hCapacity : 0 < capacity) (event : Event) :
    Keeps capacity (events ++ [event]) (buffer.push event) := by
  refine ⟨h.capacity_eq, ?_⟩
  obtain ⟨room, rfl⟩ := Nat.exists_eq_add_of_lt hCapacity
  rw [Nat.zero_add] at h ⊢
  rw [toList_push, List.rtake_concat_succ, h.size_eq, h.capacity_eq, h.toList_eq, List.rtake,
    List.rtake, List.drop_drop]
  congr 2
  omega

theorem pushAll (h : Keeps capacity events buffer) (hCapacity : 0 < capacity) (more : List Event) :
    Keeps capacity (events ++ more) (more.foldl EventBuffer.push buffer) := by
  induction more generalizing events buffer with
  | nil => rwa [List.append_nil]
  | cons event more ih =>
    rw [List.append_cons]
    exact ih (h.push hCapacity event)

theorem clear (h : Keeps capacity events buffer) : Keeps capacity [] buffer.clear :=
  ⟨h.capacity_eq, (List.rtake_nil _).symm⟩

end Keeps

theorem keeps_nil (capacity : Nat) : Keeps capacity [] { capacity } :=
  ⟨rfl, (List.rtake_nil _).symm⟩

theorem keeps_performAll (hCapacity : 0 < capacity) (calls : List BufferCall) :
    Keeps capacity (pushed calls) (performAll { capacity } calls) := by
  induction calls using List.reverseRecOn with
  | nil => exact keeps_nil capacity
  | append_singleton calls call ih =>
    rw [performAll, List.foldl_append]
    cases call with
    | push event =>
      rw [pushed_concat_push]
      exact ih.push hCapacity event
    | clear =>
      rw [pushed_concat_clear]
      exact ih.clear

/-- Every event has one of the four levels. -/
theorem length_eq_add_countP (events : List Event) :
    events.length = events.countP Event.isError + events.countP Event.isWarning +
      events.countP Event.isInfo + events.countP Event.isDebug := by
  induction events with
  | nil => rfl
  | cons event events ih =>
    cases hLevel : event.level <;>
      simp [Event.isError, Event.isWarning, Event.isInfo, Event.isDebug, hLevel] at ih ⊢ <;> omega

theorem counts_total (buffer : EventBuffer) :
    buffer.counts.total = buffer.counts.errors + buffer.counts.warnings + buffer.counts.infos +
      buffer.counts.debugs := by
  have hLength := length_eq_add_countP buffer.events.toList
  simpa [counts, count, Array.countP_toList] using hLength

end EventBuffer

/-! ## Sinks -/

namespace Sink

mutual

/-- The thresholds on each way from a sink to the buffer in a slot. -/
def ways (slot : Nat) : Sink → List (List Level)
  | buffer other => if other = slot then [[]] else []
  | console _ => []
  | structured _ => []
  | fanOut threshold sinks => (waysOfAll slot sinks).map (threshold :: ·)

def waysOfAll (slot : Nat) : List Sink → List (List Level)
  | [] => []
  | sink :: rest => ways slot sink ++ waysOfAll slot rest

end

/-- Whether all thresholds on a way let events of a level through. -/
def passes (level : Level) (way : List Level) : Bool := way.all (·.admits level)

mutual

/-- An event arrives once for each way on which it is let through. -/
theorem count_targets (level : Level) (slot : Nat) :
    ∀ sink : Sink, (sink.targets level).count (.buffer slot) =
      (sink.ways slot).countP (passes level)
  | buffer other => by
    by_cases hSlot : other = slot <;> simp [targets, ways, passes, hSlot]
  | console threshold => by
    cases hAdmits : threshold.admits level <;> simp [targets, ways, hAdmits]
  | structured threshold => by
    cases hAdmits : threshold.admits level <;> simp [targets, ways, hAdmits]
  | fanOut threshold sinks => by
    have hAll := count_targetsOfAll level slot sinks
    cases hAdmits : threshold.admits level <;>
      simp [targets, ways, passes, hAdmits, List.countP_map, Function.comp_def] at hAll ⊢
    exact hAll

theorem count_targetsOfAll (level : Level) (slot : Nat) :
    ∀ sinks : List Sink, (targetsOfAll level sinks).count (.buffer slot) =
      (waysOfAll slot sinks).countP (passes level)
  | [] => rfl
  | sink :: rest => by
    rw [targetsOfAll, waysOfAll, List.count_append, List.countP_append,
      count_targets level slot sink, count_targetsOfAll level slot rest]

end

end Sink

/-! ## Services -/

namespace ServiceCall

/-- The threshold of a service after a call. -/
def threshold (before : Level) : ServiceCall → Level
  | log _ => before
  | setThreshold level => level
  | clear _ => before

/-- What arrives by a call, given the threshold of the service and the ways after it: an event, once
for each way on which every threshold admits its level. -/
def arriving (ways : List (List Level)) (threshold : Level) : ServiceCall → List Event
  | log event =>
    (ways.filter fun way => Sink.passes event.level (threshold :: way)).map fun _ => event
  | setThreshold _ => []
  | clear _ => []

/-- The calls, each with the threshold that is in force. -/
def inForce : Level → List ServiceCall → List (Level × ServiceCall)
  | _, [] => []
  | level, call :: calls => (level, call) :: inForce (call.threshold level) calls

theorem inForce_concat (level : Level) (calls : List ServiceCall) (call : ServiceCall) :
    inForce level (calls ++ [call]) =
      inForce level calls ++ [(calls.foldl threshold level, call)] := by
  induction calls generalizing level with
  | nil => rfl
  | cons first calls ih =>
    rw [List.cons_append, inForce, ih, inForce, List.cons_append, List.foldl_cons]

end ServiceCall

/-- The events that arrived in the buffer in a slot since it was last cleared. -/
def arrived (slot : Nat) (ways : List (List Level)) (level : Level) (calls : List ServiceCall) :
    List Event :=
  ((ServiceCall.inForce level calls).rtakeWhile (·.2 ≠ .clear slot)).flatMap fun (level, call) =>
    call.arriving ways level

theorem arrived_concat (slot : Nat) (ways : List (List Level)) (level : Level)
    (calls : List ServiceCall) (call : ServiceCall) :
    arrived slot ways level (calls ++ [call]) =
      if call = .clear slot then []
      else arrived slot ways level calls ++
        call.arriving ways (calls.foldl ServiceCall.threshold level) := by
  rw [arrived, ServiceCall.inForce_concat, List.rtakeWhile_concat]
  by_cases hCall : call = .clear slot
  · simp [hCall]
  · simp [arrived, hCall]

/-- An event is pushed once for each time that the buffer is among the targets. -/
theorem Outlets.buffers_foldl_deliver (event : Event) (slot : Nat) (targets : List Target)
    (outlets : Outlets) :
    (targets.foldl (deliver event) outlets).buffers[slot]? =
      outlets.buffers[slot]?.map fun buffer =>
        (List.replicate (targets.count (.buffer slot)) event).foldl EventBuffer.push buffer := by
  induction targets generalizing outlets with
  | nil => simp
  | cons target targets ih =>
    rw [List.foldl_cons, ih]
    cases target with
    | buffer other =>
      by_cases hSlot : other = slot
      · subst hSlot
        simp [deliver, Array.getElem?_modify, List.replicate_succ, Function.comp_def]
      · simp [deliver, Array.getElem?_modify, hSlot]
    | console => simp [deliver, write]
    | structured => simp [deliver, write]

namespace Service

variable {service : Service} {outlets : Outlets} {slot capacity : Nat} {buffer : EventBuffer}
  {events : List Event}

theorem count_targets (service : Service) (level : Level) (slot : Nat) :
    (service.targets level).count (.buffer slot) =
      (service.sink.ways slot).countP fun way => Sink.passes level (service.threshold :: way) := by
  unfold targets admits
  cases hAdmits : service.threshold.admits level with
  | true =>
    rw [if_pos rfl, Sink.count_targets]
    refine List.countP_congr fun way _ => ?_
    simp [Sink.passes, hAdmits]
  | false => simp [Sink.passes, hAdmits]

theorem buffers_log (service : Service) (event : Event) (outlets : Outlets) (slot : Nat) :
    (service.log event outlets).buffers[slot]? = outlets.buffers[slot]?.map fun buffer =>
      ((ServiceCall.log event).arriving (service.sink.ways slot) service.threshold).foldl
        EventBuffer.push buffer := by
  rw [log, Outlets.buffers_foldl_deliver, count_targets, ServiceCall.arriving, List.map_const',
    ← List.countP_eq_length_filter]

theorem perform_frame (service : Service) (outlets : Outlets) (call : ServiceCall) :
    (perform (service, outlets) call).1.sink = service.sink ∧
      (perform (service, outlets) call).1.threshold = call.threshold service.threshold := by
  cases call <;> exact ⟨rfl, rfl⟩

/-- The calls change nothing of a service but its threshold. -/
theorem performAll_frame (start : Service × Outlets) (calls : List ServiceCall) :
    (performAll start calls).1.sink = start.1.sink ∧
      (performAll start calls).1.threshold =
        calls.foldl ServiceCall.threshold start.1.threshold := by
  induction calls generalizing start with
  | nil => exact ⟨rfl, rfl⟩
  | cons call calls ih =>
    obtain ⟨hSink, hThreshold⟩ := perform_frame start.1 start.2 call
    obtain ⟨hSinkAll, hThresholdAll⟩ := ih (perform start call)
    exact ⟨hSinkAll.trans hSink, hThresholdAll.trans (by rw [hThreshold, List.foldl_cons])⟩

/-- One call adds what arrives by it to what a buffer keeps the latest of, or clears the buffer. -/
theorem keeps_perform (service : Service) (hCapacity : 0 < capacity)
    (hBuffer : outlets.buffers[slot]? = some buffer)
    (hKeeps : EventBuffer.Keeps capacity events buffer) (call : ServiceCall) :
    ∃ next, (perform (service, outlets) call).2.buffers[slot]? = some next ∧
      EventBuffer.Keeps capacity
        (if call = .clear slot then []
        else events ++ call.arriving (service.sink.ways slot) service.threshold) next := by
  cases call with
  | log event =>
    have hNext := service.buffers_log event outlets slot
    rw [hBuffer, Option.map_some] at hNext
    refine ⟨_, hNext, ?_⟩
    rw [if_neg (by simp)]
    exact hKeeps.pushAll hCapacity _
  | setThreshold level =>
    refine ⟨buffer, hBuffer, ?_⟩
    rw [if_neg (by simp), ServiceCall.arriving, List.append_nil]
    exact hKeeps
  | clear other =>
    by_cases hSlot : other = slot
    · refine ⟨buffer.clear, by simp [perform, Array.getElem?_modify, hSlot, hBuffer], ?_⟩
      rw [if_pos (by rw [hSlot])]
      exact hKeeps.clear
    · refine ⟨buffer, by simp [perform, Array.getElem?_modify, hSlot, hBuffer], ?_⟩
      rw [if_neg (by simpa using hSlot), ServiceCall.arriving, List.append_nil]
      exact hKeeps

/-- A buffer behind a service keeps the latest of what arrived. -/
theorem keeps_performAll (hCapacity : 0 < capacity)
    (hFresh : outlets.buffers[slot]? = some { capacity }) (calls : List ServiceCall) :
    ∃ buffer, (performAll (service, outlets) calls).2.buffers[slot]? = some buffer ∧
      EventBuffer.Keeps capacity (arrived slot (service.sink.ways slot) service.threshold calls)
        buffer := by
  induction calls using List.reverseRecOn with
  | nil => exact ⟨_, hFresh, EventBuffer.keeps_nil capacity⟩
  | append_singleton calls call ih =>
    obtain ⟨buffer, hBuffer, hKeeps⟩ := ih
    obtain ⟨hSink, hThreshold⟩ := performAll_frame (service, outlets) calls
    have hNext :=
      keeps_perform (performAll (service, outlets) calls).1 hCapacity hBuffer hKeeps call
    rw [hSink, hThreshold, ← arrived_concat] at hNext
    rw [performAll, List.foldl_append]
    exact hNext

end Service

/-- A buffer has the latest events that were pushed since it was last cleared, in order and as many
as there is room for, and so has a buffer behind a service, of the events that arrived there: each
is one whose level was admitted by every threshold in force on a way through the sinks. Such a
buffer never drops more events than it has, and counts each under one level. -/
theorem performAll_keeps_latest {capacity : Nat} (hCapacity : 0 < capacity) :
    (∀ calls : List BufferCall,
      EventBuffer.Keeps capacity (EventBuffer.pushed calls)
        (EventBuffer.performAll { capacity } calls)) ∧
    (∀ (service : Service) (outlets : Outlets) (slot : Nat) (calls : List ServiceCall),
      outlets.buffers[slot]? = some { capacity } →
      ∃ buffer, (Service.performAll (service, outlets) calls).2.buffers[slot]? = some buffer ∧
        EventBuffer.Keeps capacity
          (arrived slot (service.sink.ways slot) service.threshold calls) buffer) ∧
    ∀ (logged : List Event) (buffer : EventBuffer), EventBuffer.Keeps capacity logged buffer →
      buffer.events.size = min logged.length capacity ∧
      (capacity ≤ buffer.events.size →
        buffer.events.size + 1 - buffer.capacity ≤ buffer.events.size) ∧
      buffer.counts.total = buffer.counts.errors + buffer.counts.warnings + buffer.counts.infos +
        buffer.counts.debugs ∧
      buffer.counts.total = buffer.events.size := by
  refine ⟨EventBuffer.keeps_performAll hCapacity,
    fun service outlets slot calls hFresh => Service.keeps_performAll hCapacity hFresh calls,
    fun logged buffer hKeeps => ⟨hKeeps.size_eq, fun _ => ?_, buffer.counts_total, rfl⟩⟩
  rw [hKeeps.capacity_eq]
  omega

/-- A buffer with room for two events, behind a service and two sinks of which the inner one admits
less. The threshold of the service is raised at last. -/
theorem latest_two_behind_sinks :
    let error := Event.error .fileNotFound "error"
    let warning := Event.warning .manyTokens "warning"
    let info := Event.info "info"
    let service : Service := ⟨.debug, .fanOut .info [.console .error, .fanOut .warning [.buffer 0]]⟩
    let outlets : Outlets := { buffers := #[{ capacity := 2 }] }
    let calls : List ServiceCall := [.log info, .log error, .clear 0, .log error, .log info,
      .log warning, .log warning, .setThreshold .error, .log warning, .log error]
    0 < 2 ∧ outlets.buffers[0]? = some { capacity := 2 } ∧
      arrived 0 (service.sink.ways 0) service.threshold calls = [error, warning, warning, error] ∧
      ∃ buffer, (Service.performAll (service, outlets) calls).2.buffers[0]? = some buffer ∧
        buffer.events.toList = [warning, error] := by
  intro error warning info service outlets calls
  have hRoom : 0 < 2 := by decide
  have hFresh : outlets.buffers[0]? = some { capacity := 2 } := rfl
  have hArrived : arrived 0 (service.sink.ways 0) service.threshold calls =
      [error, warning, warning, error] := by
    rfl
  obtain ⟨-, hBehind, -⟩ := performAll_keeps_latest hRoom
  obtain ⟨buffer, hBuffer, hKeeps⟩ := hBehind service outlets 0 calls hFresh
  refine ⟨hRoom, hFresh, hArrived, buffer, hBuffer, ?_⟩
  rw [hKeeps.toList_eq, hArrived]
  rfl

end Lineation.Diagnostics
