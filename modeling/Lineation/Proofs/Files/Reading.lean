import Lineation.Proofs.Diagnostics.Session
import Lineation.Tokenizer.File

/-!
# What reading a file reports

Every check that refuses a file reports that itself, and so does the mapping of the faults of the
system, on which three of the checks rely. `ReportsOnce` says of some checks that they do it right:
if they refuse the file, they report exactly one error, with the code of the reason, and otherwise
neither an error nor a warning; in no case do they report success. This is shown for each check
(`reportsOnce_locate` and those after it), and it passes to checks made one after the other
(`ReportsOnce.bind`).

* `read_eq`: success is reported after the checks, if all of them pass.
* `read_cases`: one error or none.
* `read_reports_outcome_once`: what a sink that takes all levels gets.
-/

namespace Lineation.Source

open Diagnostics

variable {α β : Type} {error : FileError} {event : Event}

/-! ## Checks one after the other -/

/-- The first checks refuse the file and there are no others, or the others follow them. -/
theorem run_bind_cases (checked : Checked α) (next : α → Checked β) :
    (∃ error, checked.run.value = .error error ∧
      (checked >>= next).run = ⟨.error error, checked.run.events⟩) ∨
    ∃ a, checked.run.value = .ok a ∧
      (checked >>= next).run =
        ⟨(next a).run.value, checked.run.events ++ (next a).run.events⟩ := by
  rw [ExceptT.run_bind]
  cases hValue : checked.run.value with
  | error error =>
    refine Or.inl ⟨error, rfl, ?_⟩
    simp only [bind, hValue, pure, List.append_nil]
  | ok a =>
    refine Or.inr ⟨a, rfl, ?_⟩
    simp only [bind, hValue]

/-! ## One report -/

/-- No reason to refuse a file has the code of success. -/
theorem code_ne_fileRead (error : FileError) : error.code ≠ .fileRead := by
  cases error <;> dsimp only [FileError.code] <;> decide

/-- Some checks report exactly one error, with the code of the reason, if they refuse the file, and
otherwise neither an error nor a warning. They do not report success. -/
structure ReportsOnce (checked : Checked α) : Prop where
  of_error : ∀ error, checked.run.value = .error error →
    ∃ event, checked.run.events.filter Event.isNoted = [event] ∧ event.level = .error ∧
      event.code = error.code
  of_ok : ∀ a, checked.run.value = .ok a → checked.run.events.filter Event.isNoted = []
  code_ne : ∀ event ∈ checked.run.events, event.code ≠ .fileRead

theorem reportsOnce_pure (a : α) : ReportsOnce (pure a : Checked α) where
  of_error := nofun
  of_ok _ _ := rfl
  code_ne := nofun

/-- A refusal right after an error with its code. -/
theorem reportsOnce_refusal (hLevel : event.level = .error) (hCode : event.code = error.code) :
    ReportsOnce (do report event; throw error : Checked α) where
  of_error other hOther := by
    obtain rfl : error = other := Except.error.inj hOther
    have hNoted : event.isNoted = true := by simp [Event.isNoted, Event.isError, hLevel]
    exact ⟨event, List.filter_cons_of_pos hNoted, hLevel, hCode⟩
  of_ok := nofun
  code_ne other hMem := by
    obtain rfl : other = event := List.mem_singleton.mp hMem
    rw [hCode]
    exact code_ne_fileRead error

/-- An event that tells nothing of the outcome. -/
theorem reportsOnce_report (hLevel : event.level = .debug) (hCode : event.code = .plainDebug) :
    ReportsOnce (report event : Checked Unit) where
  of_error := nofun
  of_ok _ _ := by
    have hNoted : ¬ event.isNoted = true := by
      simp [Event.isNoted, Event.isError, Event.isWarning, hLevel]
    exact List.filter_cons_of_neg hNoted
  code_ne other hMem := by
    obtain rfl : other = event := List.mem_singleton.mp hMem
    rw [hCode]
    decide

/-- Checks that follow others are not reached if those refuse the file, and those report nothing of
note if they do not. -/
theorem ReportsOnce.bind {checked : Checked α} {next : α → Checked β} (h : ReportsOnce checked)
    (hNext : ∀ a, ReportsOnce (next a)) : ReportsOnce (checked >>= next) := by
  rcases run_bind_cases checked next with ⟨error, hValue, hRun⟩ | ⟨a, hValue, hRun⟩
  · refine ⟨fun other hOther => ?_, fun b hb => ?_, ?_⟩
    · rw [hRun] at hOther ⊢
      obtain rfl : error = other := Except.error.inj hOther
      exact h.of_error error hValue
    · rw [hRun] at hb
      cases hb
    · rw [hRun]
      exact h.code_ne
  · have hNoted : (checked >>= next).run.events.filter Event.isNoted =
        (next a).run.events.filter Event.isNoted := by
      rw [hRun, List.filter_append, h.of_ok a hValue, List.nil_append]
    refine ⟨fun other hOther => ?_, fun b hb => ?_, ?_⟩
    · rw [hRun] at hOther
      rw [hNoted]
      exact (hNext a).of_error other hOther
    · rw [hRun] at hb
      rw [hNoted]
      exact (hNext a).of_ok b hb
    · rw [hRun]
      exact List.forall_mem_append.mpr ⟨h.code_ne, (hNext a).code_ne⟩

/-! ## The checks -/

variable (files : FileSystem) (limits : Limits) (preferences : FilePreferences) (path : Path)

theorem reportsOnce_refuseFault (message : String) (fault : SystemFault) :
    ReportsOnce (refuseFault path message fault : Checked α) :=
  reportsOnce_refusal (by simp [Event.error]) (by simp [Event.error])

theorem reportsOnce_answered (message : String) (answer : Except SystemFault α) :
    ReportsOnce (answered path message answer) := by
  cases answer with
  | ok a => exact reportsOnce_pure a
  | error fault => exact reportsOnce_refuseFault path message fault

theorem reportsOnce_locate : ReportsOnce (locate files path) := by
  unfold locate
  split
  · exact reportsOnce_refusal rfl rfl
  · split
    · exact reportsOnce_refusal rfl rfl
    · exact reportsOnce_refusal rfl rfl
    · exact reportsOnce_pure _

theorem reportsOnce_resolve (file : RegularFile) : ReportsOnce (resolve path file) :=
  reportsOnce_answered path _ _

theorem reportsOnce_describe (file : RegularFile) : ReportsOnce (describe limits path file) := by
  refine (reportsOnce_answered path _ _).bind fun size => ?_
  refine (reportsOnce_report ?_ ?_).bind fun _ => reportsOnce_pure _
  · simp [found, Event.debug]
  · simp [found, Event.debug]

theorem reportsOnce_accept (info : FileInfo) :
    ReportsOnce (accept limits preferences path info) := by
  unfold accept
  split
  · exact reportsOnce_refusal (by simp [Event.error]) (by simp [Event.error])
  · split
    · exact reportsOnce_refusal rfl rfl
    · split
      · exact reportsOnce_refusal (by simp [Event.error]) (by simp [Event.error])
      · exact reportsOnce_pure _

theorem reportsOnce_decode (bytes : ByteArray) : ReportsOnce (decode path bytes) := by
  unfold decode
  split
  · exact reportsOnce_pure _
  · exact reportsOnce_refusal (by simp [Event.error]) (by simp [Event.error])

theorem reportsOnce_readText (canonical : Path) (file : RegularFile) :
    ReportsOnce (readText path canonical file) :=
  (reportsOnce_answered canonical _ _).bind fun bytes => reportsOnce_decode path bytes

theorem reportsOnce_countLines (text : String) : ReportsOnce (countLines limits path text) := by
  unfold countLines
  dsimp only
  split
  · exact reportsOnce_refusal (by simp [Event.error]) (by simp [Event.error])
  · exact reportsOnce_pure _

theorem reportsOnce_load (elapsed : Nat) :
    ReportsOnce (load files limits preferences path elapsed) :=
  (reportsOnce_report rfl rfl).bind fun _ =>
    (reportsOnce_locate files path).bind fun file =>
    (reportsOnce_resolve path file).bind fun canonical =>
    (reportsOnce_describe limits canonical file).bind fun info =>
    (reportsOnce_accept limits preferences path info).bind fun _ =>
    (reportsOnce_readText path canonical file).bind fun text =>
    (reportsOnce_countLines limits path text).bind fun _ => reportsOnce_pure _

/-! ## Reading -/

section Completed

variable (file : SourceFile) (timed : Bool)

theorem level_completed : (completed limits path file timed).level = .info := by
  cases timed <;> simp [completed, Event.success]

theorem code_completed : (completed limits path file timed).code = .fileRead := by
  cases timed <;> simp [completed, Event.success]

theorem isNoted_completed : (completed limits path file timed).isNoted = false := by
  simp [Event.isNoted, Event.isError, Event.isWarning, level_completed]

theorem lookup_lines_completed :
    (completed limits path file timed).context.lookup "lines" =
      some (toString file.lineCount) := by
  cases timed <;> simp [completed, Event.lookup_context_notes, Context.lookup_cons]

end Completed

/-- Reading a file ends with the checks if they refuse it, and otherwise with the event of
success. -/
theorem read_eq (logging : LoggingPreferences) (elapsed : Nat) :
    let checked := (load files limits preferences path elapsed).run
    (∃ error, checked.value = .error error ∧
      read files limits preferences logging path elapsed = ⟨.error error, checked.events⟩) ∨
    ∃ source, checked.value = .ok source ∧
      read files limits preferences logging path elapsed =
        ⟨.ok source, checked.events ++
          [completed limits path source (preferences.performance && logging.performance)]⟩ := by
  unfold read
  exact run_bind_cases _ _

/-- What reading a file gives is decided by the checks. -/
theorem value_read (logging : LoggingPreferences) (elapsed : Nat) :
    (read files limits preferences logging path elapsed).value =
      (load files limits preferences path elapsed).run.value := by
  rcases read_eq files limits preferences path logging elapsed with
    ⟨error, hValue, hRead⟩ | ⟨source, hValue, hRead⟩
  · rw [hRead, hValue]
  · rw [hRead, hValue]

/-- A file is refused with one error, or read without errors and warnings. -/
theorem read_cases (logging : LoggingPreferences) (elapsed : Nat) :
    let reading := read files limits preferences logging path elapsed
    (∃ error event, reading.value = .error error ∧
      reading.events.filter Event.isNoted = [event] ∧ event.level = .error ∧
      event.code = error.code ∧ ∀ other ∈ reading.events, other.code ≠ .fileRead) ∨
    ∃ source opening timed, reading.value = .ok source ∧
      reading.events = opening ++ [completed limits path source timed] ∧
      opening.filter Event.isNoted = [] ∧ ∀ other ∈ opening, other.code ≠ .fileRead := by
  intro reading
  have hOnce := reportsOnce_load files limits preferences path elapsed
  rcases read_eq files limits preferences path logging elapsed with
    ⟨error, hValue, hRead⟩ | ⟨source, hValue, hRead⟩
  · obtain ⟨event, hNoted, hLevel, hCode⟩ := hOnce.of_error error hValue
    rw [show reading = _ from hRead]
    exact Or.inl ⟨error, event, rfl, hNoted, hLevel, hCode, hOnce.code_ne⟩
  · rw [show reading = _ from hRead]
    exact Or.inr ⟨source, _, _, rfl, rfl, hOnce.of_ok source hValue, hOnce.code_ne⟩

/-- Of a file that is read neither an error nor a warning is reported. -/
theorem isNoted_of_mem_events {logging : LoggingPreferences} {elapsed : Nat} {source : SourceFile}
    (h : (read files limits preferences logging path elapsed).value = .ok source) :
    ∀ event ∈ (read files limits preferences logging path elapsed).events,
      event.isNoted = false := by
  intro event hMem
  rcases read_cases files limits preferences path logging elapsed with
    ⟨error, _, hValue, -⟩ | ⟨other, opening, timed, -, hEvents, hNoted, -⟩
  · cases hValue.symm.trans h
  · rw [hEvents] at hMem
    rcases List.mem_append.mp hMem with hMem | hMem
    · simpa using List.filter_eq_nil_iff.mp hNoted event hMem
    · rw [List.mem_singleton.mp hMem]
      exact isNoted_completed limits path other timed

/-! ## Tokenizing -/

section Tokenize

variable {files path} {t : Tokenizer} {environment : Environment} {logging : LoggingPreferences}
  {elapsed : Nat}

/-- Of a file that is refused no more is reported than that. -/
theorem tokenizeFile_of_error
    (h : (read files t.limits (.ofEnvironment environment) logging path elapsed).value =
      .error error) :
    t.tokenizeFile files environment logging path elapsed =
      ⟨.error (.sourceUnavailable path.text error),
        (read files t.limits (.ofEnvironment environment) logging path elapsed).events⟩ := by
  simp only [Tokenizer.tokenizeFile, bind, h, pure, List.append_nil]

/-- Of a file that is read the tokens are given, and reported after it was read. -/
theorem tokenizeFile_of_ok {source : SourceFile}
    (h : (read files t.limits (.ofEnvironment environment) logging path elapsed).value =
      .ok source) :
    t.tokenizeFile files environment logging path elapsed =
      ⟨.ok (t.tokenizeSource source).value,
        (read files t.limits (.ofEnvironment environment) logging path elapsed).events ++
          (t.tokenizeSource source).events⟩ := by
  simp only [Tokenizer.tokenizeFile, bind, h, pure, List.append_nil]

end Tokenize

/-! ## What a sink gets -/

theorem filter_map_located (session : Session) {p : Event → Bool}
    (hp : ∀ event, p (session.located event) = p event) (events : List Event) :
    (events.map session.located).filter p = (events.filter p).map session.located := by
  rw [List.filter_map, show p ∘ session.located = p from funext hp]

theorem filter_isError_eq (events : List Event) :
    events.filter Event.isError = (events.filter Event.isNoted).filter Event.isError := by
  rw [List.filter_filter]
  refine List.filter_congr fun event _ => ?_
  unfold Event.isNoted
  cases event.isError <;> rfl

/-- A sink that takes all levels gets one error with the code of the reason if a file is refused,
and no event of success. If the file is read, it gets one event of success with the number of lines,
and neither an error nor a warning. -/
theorem read_reports_outcome_once (files : FileSystem) (limits : Limits)
    (preferences : FilePreferences) (logging : LoggingPreferences) (path : Path) (elapsed : Nat)
    {session : Session} {service : Service} {targets : List Target}
    (hService : session.service = some service)
    (hTargets : ∀ level, service.targets level = targets) :
    let reading := read files limits preferences logging path elapsed
    let got := reading.events.map session.located
    (session.logAll reading.events).outlets =
      got.foldl (fun outlets event => targets.foldl (Outlets.deliver event) outlets)
        session.outlets ∧
    (∀ error, reading.value = .error error →
      (∃ event, got.filter Event.isError = [event] ∧ event.code = error.code) ∧
        ∀ event ∈ got, event.code ≠ .fileRead) ∧
    ∀ source, reading.value = .ok source →
      (∃ event, got.filter (·.code = .fileRead) = [event] ∧
        event.context.lookup "lines" = some (toString source.lineCount)) ∧
        ∀ event ∈ got, event.isError = false ∧ event.isWarning = false := by
  intro reading got
  refine ⟨Session.outlets_logAll hService hTargets _, ?_⟩
  have hSilent : ∀ events : List Event, (∀ event ∈ events, event.code ≠ .fileRead) →
      ∀ event ∈ events.map session.located, event.code ≠ .fileRead := by
    intro events hEvents event hMem
    obtain ⟨before, hBefore, rfl⟩ := List.mem_map.mp hMem
    rw [Session.code_located]
    exact hEvents before hBefore
  rcases read_cases files limits preferences path logging elapsed with
    ⟨error, event, hValue, hNoted, hLevel, hCode, hNe⟩ |
    ⟨source, opening, timed, hValue, hEvents, hNoted, hNe⟩
  · refine ⟨fun other hOther => ?_, fun source hSource => ?_⟩
    · obtain rfl : error = other := Except.error.inj (hValue.symm.trans hOther)
      refine ⟨⟨session.located event, ?_, (session.code_located event).trans hCode⟩,
        hSilent _ hNe⟩
      have hIsError : event.isError = true := by simp [Event.isError, hLevel]
      rw [filter_map_located session session.isError_located, filter_isError_eq, hNoted,
        List.filter_cons_of_pos hIsError]
      rfl
    · cases hValue.symm.trans hSource
  · refine ⟨fun error hError => ?_, fun other hOther => ?_⟩
    · cases hValue.symm.trans hError
    · obtain rfl : source = other := Except.ok.inj (hValue.symm.trans hOther)
      let last := completed limits path source timed
      have hLast : last.code = .fileRead := code_completed limits path source timed
      have hGot : got = opening.map session.located ++ [session.located last] := by
        rw [show got = reading.events.map session.located from rfl,
          show reading.events = _ from hEvents, List.map_append]
        rfl
      refine ⟨⟨session.located last, ?_, ?_⟩, fun event hMem => ?_⟩
      · have hNone : (opening.map session.located).filter (·.code = .fileRead) = [] :=
          List.filter_eq_nil_iff.mpr fun event hMem => by simpa using hSilent _ hNe event hMem
        rw [hGot, List.filter_append, hNone, List.nil_append]
        simp [hLast]
      · rw [Session.lookup_context_located (by decide) (by decide), lookup_lines_completed]
      · obtain ⟨before, hBefore, rfl⟩ := List.mem_map.mp hMem
        have hNotNoted : (session.located before).isNoted = false :=
          (session.isNoted_located before).trans
            (isNoted_of_mem_events files limits preferences path hValue before hBefore)
        simpa [Event.isNoted] using hNotNoted

/-- A file that is gone when it is to be described: a buffer behind a fan-out gets the event that
precedes the checks and one error. -/
theorem vanished_file_reported_once :
    let file : RegularFile :=
      { canonical := .ok ⟨"/a"⟩, size := .error .notFound, content := .error .notFound }
    let service : Service := ⟨.debug, .fanOut .debug [.buffer 0]⟩
    let session : Session := { service := some service, outlets := { buffers := #[{}] } }
    let reading := read ⟨fun _ => .regular file⟩ .current {} {} ⟨"a"⟩ 0
    session.service = some service ∧ (∀ level, service.targets level = [.buffer 0]) ∧
      reading.value = .error (.notFound "/a") ∧
      (∃ event, (reading.events.map session.located).filter Event.isError = [event] ∧
        event.code = .fileNotFound) ∧
      ((session.logAll reading.events).outlets.buffer 0).events.size = 2 := by
  intro file service session reading
  have hService : session.service = some service := rfl
  have hTargets : ∀ level, service.targets level = [.buffer 0] := by
    intro level
    cases level <;> rfl
  have hValue : reading.value = .error (.notFound "/a") := rfl
  obtain ⟨hOutlets, hError, -⟩ := read_reports_outcome_once ⟨fun _ => .regular file⟩ .current {} {}
    ⟨"a"⟩ 0 hService hTargets
  refine ⟨hService, hTargets, hValue, (hError _ hValue).1, ?_⟩
  rw [hOutlets]
  rfl

end Lineation.Source
