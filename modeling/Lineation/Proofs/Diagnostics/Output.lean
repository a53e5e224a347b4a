import Lineation.Proofs.Diagnostics.Session

/-!
# What logging writes to the standard output

Events that are written as JSON, and errors and warnings on the console, go to the error output.
Only an event of a lower level on the console goes to the standard output. Whether that can happen
is decided by the preferences (`LoggingPreferences.Quiet`), and if it cannot, then nothing that a
session does but printing changes the standard output (`Session.SameOutput`).
-/

namespace Lineation

open Diagnostics

/-- Preferences by which no event reaches the standard output. -/
def LoggingPreferences.Quiet (preferences : LoggingPreferences) : Prop :=
  preferences.console = false ∨ preferences.structured = true ∨
    preferences.threshold = .error ∨ preferences.threshold = .warning

namespace Diagnostics

/-! ## Outlets -/

namespace Outlets

variable {outlets : Outlets} {event : Event}

theorem standardOutput_write (outlets : Outlets) (emission : Emission) :
    (outlets.write emission).standardOutput = outlets.standardOutput ++ emission.outText := by
  simp [standardOutput, emissions, write]

theorem standardOutput_write_of_outText_eq {emission : Emission} (h : emission.outText = "") :
    (outlets.write emission).standardOutput = outlets.standardOutput := by
  rw [standardOutput_write, h, String.append_empty]

theorem outText_onConsole (width : Nat) (h : event.level = .error ∨ event.level = .warning) :
    (event.onConsole width).outText = "" := by
  unfold Event.onConsole
  rcases h with hLevel | hLevel
  · rw [hLevel]
    rfl
  · rw [hLevel]
    rfl

theorem standardOutput_deliver {target : Target}
    (h : target = .console → event.level = .error ∨ event.level = .warning) :
    (outlets.deliver event target).standardOutput = outlets.standardOutput := by
  cases target with
  | buffer slot => rfl
  | structured => exact standardOutput_write_of_outText_eq rfl
  | console => exact standardOutput_write_of_outText_eq (outText_onConsole _ (h rfl))

theorem standardOutput_foldl_deliver {targets : List Target}
    (h : .console ∈ targets → event.level = .error ∨ event.level = .warning) :
    (targets.foldl (deliver event) outlets).standardOutput = outlets.standardOutput := by
  induction targets generalizing outlets with
  | nil => rfl
  | cons target targets ih =>
    rw [List.foldl_cons, ih fun hMem => h (List.mem_cons_of_mem _ hMem)]
    apply standardOutput_deliver
    rintro rfl
    exact h List.mem_cons_self

end Outlets

/-! ## Services -/

/-- Only errors and warnings reach the console. -/
def Service.Quiet (service : Service) : Prop :=
  ∀ level, .console ∈ service.targets level → level = .error ∨ level = .warning

theorem Service.Quiet.standardOutput_log {service : Service} (h : service.Quiet) (event : Event)
    (outlets : Outlets) : (service.log event outlets).standardOutput = outlets.standardOutput :=
  Outlets.standardOutput_foldl_deliver (h event.level)

theorem Level.error_or_warning_of_admits {threshold level : Level}
    (hThreshold : threshold = .error ∨ threshold = .warning) (h : threshold.admits level = true) :
    level = .error ∨ level = .warning := by
  rcases hThreshold with rfl | rfl <;> cases level <;> simp_all [Level.admits, Level.rank]

/-- Only a service for plain text on the console writes there, and only what its threshold lets
through. -/
theorem console_mem_targets {preferences : LoggingPreferences} {level : Level}
    (h : .console ∈ (Session.configuredService preferences).targets level) :
    preferences.console = true ∧ preferences.structured = false ∧
      preferences.threshold.admits level = true := by
  cases hConsole : preferences.console <;> cases hStructured : preferences.structured <;>
    cases hAdmits : preferences.threshold.admits level <;>
    simp [Session.configuredService, Service.targets, Service.admits, Sink.targets,
      Sink.targetsOfAll, hConsole, hStructured, hAdmits] at h ⊢

theorem quiet_configuredService {preferences : LoggingPreferences} (h : preferences.Quiet) :
    (Session.configuredService preferences).Quiet := by
  intro level hMem
  obtain ⟨hConsole, hStructured, hAdmits⟩ := console_mem_targets hMem
  rcases h with hOff | hOn | hThreshold
  · rw [hConsole] at hOff
    cases hOff
  · rw [hStructured] at hOn
    cases hOn
  · exact Level.error_or_warning_of_admits hThreshold hAdmits

/-! ## Sessions -/

namespace Session

variable {session session' session'' : Session}

/-- The service of the session, if there is one, is quiet. -/
def Quiet (session : Session) : Prop := ∀ service ∈ session.service, service.Quiet

/-- The service stays, and nothing was written to the standard output. -/
structure SameOutput (session session' : Session) : Prop where
  service_eq : session'.service = session.service
  output_eq : session'.outlets.standardOutput = session.outlets.standardOutput

theorem SameOutput.trans (h : SameOutput session session') (h' : SameOutput session' session'') :
    SameOutput session session'' :=
  ⟨h'.service_eq.trans h.service_eq, h'.output_eq.trans h.output_eq⟩

theorem SameOutput.quiet (h : SameOutput session session') (hQuiet : session.Quiet) :
    session'.Quiet := by
  rw [Quiet, h.service_eq]
  exact hQuiet

theorem sameOutput_printError (session : Session) (text : String) :
    SameOutput session (session.printError text) :=
  ⟨rfl, Outlets.standardOutput_write_of_outText_eq rfl⟩

theorem sameOutput_printReport (session : Session) : SameOutput session session.printReport := by
  unfold printReport
  split
  · split
    · exact session.sameOutput_printError _
    · exact ⟨rfl, rfl⟩
  · exact ⟨rfl, rfl⟩

theorem sameOutput_collect (session : Session) (event : Event) :
    SameOutput session (session.collect event) := by
  unfold collect
  split <;> exact ⟨rfl, rfl⟩

theorem Quiet.dispatch (h : session.Quiet) (event : Event) :
    SameOutput session (session.dispatch event) := by
  unfold Session.dispatch
  split
  · rename_i service hService
    exact ⟨rfl, (h service hService).standardOutput_log event session.outlets⟩
  · exact ⟨rfl, rfl⟩

theorem Quiet.log (h : session.Quiet) (event : Event) : SameOutput session (session.log event) := by
  have hCollect := session.sameOutput_collect (session.located event)
  rw [log_eq]
  split
  · exact hCollect.trans ((hCollect.quiet h).dispatch _)
  · exact h.dispatch _

theorem Quiet.logAll (h : session.Quiet) (events : List Event) :
    SameOutput session (session.logAll events) := by
  induction events generalizing session with
  | nil => exact ⟨rfl, rfl⟩
  | cons event events ih =>
    have hLog := h.log event
    exact hLog.trans (ih (hLog.quiet h))

end Session

end Diagnostics

end Lineation
