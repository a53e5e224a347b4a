import Lineation.Diagnostics.Reported
import Lineation.Proofs.Diagnostics.Collector

/-!
# What logging changes

Logging an event leaves everything as it is but the outlets and the entry of the file that is being
read. Outside a file nothing is collected; within one, its entry gets the errors and warnings, in
order and each with the name of the file if that is wanted (`Session.collector_logAll`).
-/

namespace Lineation.Diagnostics.Session

variable {session : Session} {event : Event} {context : FileContext} {collector : Collector}

/-! ## Naming the file -/

@[simp]
theorem level_located (session : Session) (event : Event) :
    (session.located event).level = event.level := by
  unfold located
  split <;> simp

@[simp]
theorem code_located (session : Session) (event : Event) :
    (session.located event).code = event.code := by
  unfold located
  split <;> simp

@[simp]
theorem isError_located (session : Session) (event : Event) :
    (session.located event).isError = event.isError := by
  simp [Event.isError]

@[simp]
theorem isNoted_located (session : Session) (event : Event) :
    (session.located event).isNoted = event.isNoted := by
  simp [Event.isNoted, Event.isError, Event.isWarning]

/-- Naming the file changes no other named value. -/
theorem lookup_context_located {key : String} (hFile : key ≠ "file") (hId : key ≠ "file_id")
    (session : Session) (event : Event) :
    (session.located event).context.lookup key = event.context.lookup key := by
  unfold located
  split
  · simp [Event.lookup_context_notes, Context.lookup_cons, hFile, hId]
  · rfl

/-! ## What an event leaves as it is -/

theorem dispatch_frame (session : Session) (event : Event) :
    (session.dispatch event).environment = session.environment ∧
      (session.dispatch event).chosen = session.chosen ∧
      (session.dispatch event).context = session.context ∧
      (session.dispatch event).collector = session.collector := by
  unfold dispatch
  split <;> exact ⟨rfl, rfl, rfl, rfl⟩

theorem collect_frame (session : Session) (event : Event) :
    (session.collect event).environment = session.environment ∧
      (session.collect event).chosen = session.chosen ∧
      (session.collect event).context = session.context := by
  unfold collect
  split <;> exact ⟨rfl, rfl, rfl⟩

theorem log_eq (session : Session) (event : Event) :
    session.log event =
      (if event.isNoted then session.collect (session.located event) else session).dispatch
        (session.located event) := by
  rw [← session.isNoted_located event]
  rfl

theorem log_frame (session : Session) (event : Event) :
    (session.log event).environment = session.environment ∧
      (session.log event).chosen = session.chosen ∧
      (session.log event).context = session.context := by
  rw [log_eq]
  obtain ⟨hEnvironment, hChosen, hContext, -⟩ :=
    (if event.isNoted then session.collect (session.located event) else session).dispatch_frame
      (session.located event)
  rw [hEnvironment, hChosen, hContext]
  split
  · exact session.collect_frame _
  · exact ⟨rfl, rfl, rfl⟩

theorem logAll_frame (session : Session) (events : List Event) :
    (session.logAll events).environment = session.environment ∧
      (session.logAll events).chosen = session.chosen ∧
      (session.logAll events).context = session.context := by
  induction events generalizing session with
  | nil => exact ⟨rfl, rfl, rfl⟩
  | cons event events ih =>
    obtain ⟨hEnvironment, hChosen, hContext⟩ := session.log_frame event
    rw [← hEnvironment, ← hChosen, ← hContext]
    exact ih (session.log event)

theorem located_log (session : Session) (event : Event) :
    (session.log event).located = session.located := by
  obtain ⟨hEnvironment, hChosen, hContext⟩ := session.log_frame event
  funext other
  simp only [located, preferences, hEnvironment, hChosen, hContext]

theorem located_of_context_eq_none (h : session.context = none) (event : Event) :
    session.located event = event := by
  unfold located
  rw [h]
  cases session.preferences.fileContext <;> rfl

/-- Outside a file an event is only handed on. -/
theorem log_of_context_eq_none (h : session.context = none) (event : Event) :
    session.log event = session.dispatch event := by
  rw [log_eq, located_of_context_eq_none h]
  split
  · rw [collect, h]
  · rfl

section Targets

variable {service : Service} {targets : List Target}

theorem dispatch_of_targets_eq (hService : session.service = some service)
    (hTargets : ∀ level, service.targets level = targets) (event : Event) :
    (session.dispatch event).service = some service ∧
      (session.dispatch event).outlets = targets.foldl (Outlets.deliver event) session.outlets := by
  unfold dispatch
  split
  · rename_i found hFound
    obtain rfl : found = service := Option.some.inj (hFound.symm.trans hService)
    exact ⟨hService, by rw [Service.log, hTargets]⟩
  · rename_i hNone
    rw [hNone] at hService
    cases hService

theorem log_of_targets_eq (hService : session.service = some service)
    (hTargets : ∀ level, service.targets level = targets) (event : Event) :
    (session.log event).service = some service ∧
      (session.log event).outlets =
        targets.foldl (Outlets.deliver (session.located event)) session.outlets := by
  have hCollect : (session.collect (session.located event)).service = session.service ∧
      (session.collect (session.located event)).outlets = session.outlets := by
    unfold collect
    split <;> exact ⟨rfl, rfl⟩
  rw [log_eq]
  split
  · rw [← hCollect.2]
    exact dispatch_of_targets_eq (hCollect.1.trans hService) hTargets _
  · exact dispatch_of_targets_eq hService hTargets _

/-- A sink that takes all levels alike gets every event, in order and with the name of the file if
that is wanted. -/
theorem outlets_logAll (hService : session.service = some service)
    (hTargets : ∀ level, service.targets level = targets) (events : List Event) :
    (session.logAll events).outlets =
      (events.map session.located).foldl
        (fun outlets event => targets.foldl (Outlets.deliver event) outlets) session.outlets := by
  induction events generalizing session with
  | nil => rfl
  | cons event events ih =>
    obtain ⟨hNext, hOutlets⟩ := log_of_targets_eq hService hTargets event
    change ((session.log event).logAll events).outlets = _
    rw [ih hNext, hOutlets, located_log]
    rfl

end Targets

/-- Outside a file, a sink that writes all levels as JSON writes the events as they are. -/
theorem emissions_logAll (hService : session.service = some ⟨.debug, .structured .debug⟩)
    (hContext : session.context = none) (events : List Event) :
    (session.logAll events).outlets.emissions =
      session.outlets.emissions ++ events.map Emission.record := by
  have hTargets : ∀ level : Level,
      (Service.mk .debug (.structured .debug)).targets level = [.structured] := by
    intro level
    cases level <;> rfl
  have hLocated : session.located = id := funext (located_of_context_eq_none hContext)
  rw [outlets_logAll hService hTargets, hLocated, List.map_id]
  generalize session.outlets = outlets
  induction events generalizing outlets with
  | nil => simp
  | cons event events ih =>
    rw [List.foldl_cons, ih, List.map_cons, List.append_cons]
    exact congrArg (· ++ _) List.reverse_cons

/-! ## What is collected -/

theorem collector_log_of_context_eq_none (h : session.context = none) (event : Event) :
    (session.log event).collector = session.collector := by
  rw [log_of_context_eq_none h, (dispatch_frame _ _).2.2.2]

theorem collector_logAll_of_context_eq_none (h : session.context = none) (events : List Event) :
    (session.logAll events).collector = session.collector := by
  induction events generalizing session with
  | nil => rfl
  | cons event events ih =>
    rw [← collector_log_of_context_eq_none h event]
    exact ih ((session.log_frame event).2.2.trans h)

theorem collector_log (h : session.context = some context) (event : Event) :
    (session.log event).collector =
      if event.isNoted then
        session.collector.map (·.record context.path (session.located event))
      else session.collector := by
  rw [log_eq, (dispatch_frame _ _).2.2.2]
  split
  · simp [collect, h]
  · rfl

/-- The entry of a file gets its errors and warnings, in order. -/
theorem collector_logAll {f : Array Event → Array Event} (h : session.context = some context)
    (hCollector : session.collector = some (collector.update context.path f))
    (events : List Event) :
    (session.logAll events).collector =
      some (collector.update context.path
        (Collector.keep collector.limit ((events.filter Event.isNoted).map session.located) ∘ f)) := by
  induction events generalizing session f with
  | nil => exact hCollector
  | cons event events ih =>
    have hContext := (session.log_frame event).2.2.trans h
    have hLog := collector_log h event
    rw [hCollector] at hLog
    change ((session.log event).logAll events).collector = _
    rw [List.filter_cons, ← located_log session event]
    split
    · rename_i hNoted
      rw [if_pos hNoted, Option.map_some, Collector.record, Collector.update_update] at hLog
      rw [ih hContext hLog, located_log]
      rfl
    · rename_i hNoted
      rw [if_neg hNoted] at hLog
      exact ih hContext hLog

end Lineation.Diagnostics.Session
