import Mathlib.Data.List.Nodup
import Lineation.CommandLine.Run
import Lineation.Proofs.Files.Checks
import Lineation.Proofs.Tokenizer.Warnings
import Lineation.Proofs.TokenStream.Traversal

/-!
# The exit status and the summary

A run counts the files that fail; the collector, which is told nothing of that count, holds the
errors that were logged while each file was read. The two agree: a file that cannot be read gives
two errors, one for the reason and one for the missing tokens, and any other file gives none,
whatever its text is. The limits of the run must let logging start, and leave room for both errors.

* `tokenizeOne_cases`: a file fails with exactly these two errors, or gives text and no error.
* `Visited.visit`: one more file adds one entry with its errors, and counts if it has some.
* `Visited.summary_eq`, `Visited.codes_fileErrors`: what is collected after some files.

Files are told apart by the components of their paths. A path that was met before would add its
errors to the entry that is there.
-/

namespace Lineation.CommandLine

open Diagnostics

variable {host : Host} {options : Options} {tokenizer : Tokenizer} {path : Path}
  {progress : Progress} {names : List String} {name : String}

/-! ## One file -/

/-- What reading a file gives in a run. -/
def reading (host : Host) (options : Options) (path : Path) :
    Reported (Except FileError SourceFile) :=
  Source.read host.files host.limits (.ofEnvironment host.environment) (preferences host options)
    path (host.readingTime path)

/-- The codes of the errors about a file: the reason for refusing it, and that there are no
tokens. -/
def errorCodes (host : Host) (options : Options) (path : Path) : List Code :=
  match (reading host options path).value with
  | .error cause => [cause.code, .sourceUnavailable]
  | .ok _ => []

theorem exists_render (options : Options) (path : Path) (stream : TokenStream) :
    ∃ text, render options path stream = .ok text := by
  unfold render
  split
  · exact ⟨_, rfl⟩
  · exact ⟨_, rfl⟩
  · exact Render.exists_tokens stream _

theorem isNoted_failed (error : TokenizerError) : (failed error).isNoted = true := by
  simp [failed, Event.isNoted, Event.isError, Event.note, Event.error]

theorem isError_of_mem_tokenizeSource {file : SourceFile} {event : Event}
    (h : event ∈ (tokenizer.tokenizeSource file).events) : event.isError = false := by
  rcases List.mem_cons.mp h with rfl | hMem
  · simp [Tokenizer.fileStarted, Event.isError, Event.debug]
  · exact tokenizer.isError_of_mem_events file.text event hMem

theorem tokenizeOne_of_error {cause : FileError} (hLimits : tokenizer.limits = host.limits)
    (h : (reading host options path).value = .error cause) :
    tokenizeOne host (preferences host options) tokenizer options path =
      ⟨.error (TokenizerError.sourceUnavailable path.text cause).message,
        (reading host options path).events ++ [failed (.sourceUnavailable path.text cause)]⟩ := by
  rw [reading, ← hLimits] at h ⊢
  simp only [tokenizeOne, Source.tokenizeFile_of_error h, bind, pure, report, List.append_nil]

theorem tokenizeOne_of_ok {file : SourceFile} {text : String}
    (hLimits : tokenizer.limits = host.limits) (h : (reading host options path).value = .ok file)
    (hText : render options path (tokenizer.tokenizeSource file).value = .ok text) :
    tokenizeOne host (preferences host options) tokenizer options path =
      ⟨.ok text, (reading host options path).events ++ (tokenizer.tokenizeSource file).events⟩ := by
  rw [reading, ← hLimits] at h ⊢
  simp only [tokenizeOne, Source.tokenizeFile_of_ok h, bind, hText, pure, List.append_nil]

/-- A file that cannot be read fails with two errors; any other file is shown without an error. -/
theorem tokenizeOne_cases (options : Options) (path : Path)
    (hLimits : tokenizer.limits = host.limits) :
    let one := tokenizeOne host (preferences host options) tokenizer options path
    (∃ (event : Event) (error : TokenizerError),
      one.value = .error error.message ∧ one.events.filter Event.isNoted = [event, failed error] ∧
      event.level = .error ∧ error.code = .sourceUnavailable ∧
      errorCodes host options path = [event.code, .sourceUnavailable]) ∨
    ∃ text, one.value = .ok text ∧ (∀ event ∈ one.events, event.isError = false) ∧
      errorCodes host options path = [] := by
  intro one
  cases hValue : (reading host options path).value with
  | error cause =>
    have hOne : one = _ := tokenizeOne_of_error hLimits hValue
    rcases Source.read_cases host.files host.limits (.ofEnvironment host.environment) path
      (preferences host options) (host.readingTime path) with
      ⟨other, event, hOther, hNoted, hLevel, hCode, -⟩ | ⟨file, -, -, hFile, -⟩
    · obtain rfl : other = cause := Except.error.inj (hOther.symm.trans hValue)
      have hEvents : (reading host options path).events.filter Event.isNoted = [event] := hNoted
      refine Or.inl ⟨event, .sourceUnavailable path.text other, ?_, ?_, hLevel, rfl, ?_⟩
      · rw [hOne]
      · simp [hOne, hEvents, isNoted_failed]
      · rw [errorCodes, hValue, hCode]
    · cases hFile.symm.trans hValue
  | ok file =>
    obtain ⟨text, hText⟩ := exists_render options path (tokenizer.tokenizeSource file).value
    have hOne : one = _ := tokenizeOne_of_ok hLimits hValue hText
    refine Or.inr ⟨text, ?_, ?_, ?_⟩
    · rw [hOne]
    · rw [hOne]
      intro event hMem
      rcases List.mem_append.mp hMem with hMem | hMem
      · have hNoted := Source.isNoted_of_mem_events _ _ _ _ hValue event hMem
        simp_all [Event.isNoted]
      · exact isError_of_mem_tokenizeSource hMem
    · rw [errorCodes, hValue]

/-- The errors that are kept of a file, if there is room for two. -/
theorem codes_keep_tokenizeOne (hLimits : tokenizer.limits = host.limits)
    (hRoom : 2 ≤ host.limits.maxEventsPerFile) (session : Session) :
    let one := tokenizeOne host (preferences host options) tokenizer options path
    let kept := Collector.keep host.limits.maxEventsPerFile
      ((one.events.filter Event.isNoted).map session.located) #[]
    Collector.codesOf kept = errorCodes host options path := by
  intro one kept
  unfold Collector.codesOf
  rcases tokenizeOne_cases options path hLimits with
    ⟨event, error, -, hEvents, hLevel, hCode, hCodes⟩ | ⟨text, -, hEvents, hCodes⟩
  · have hKept : kept.toList = [event, failed error].map session.located := by
      simp only [kept, one, hEvents]
      exact Collector.toList_keep (by simpa using hRoom)
    have hErrors : event.isError = true ∧ (failed error).isError = true := by
      simp [failed, Event.isError, Event.note, Event.error, hLevel]
    have hFailed : (failed error).code = error.code := by
      simp [failed, Event.note, Event.error]
    rw [hKept, hCodes]
    simp [hErrors, hFailed, hCode]
  · have hNone : ∀ event ∈ kept.toList, event.isError = false := by
      apply Collector.isError_of_mem_keep (by simp)
      intro event hMem
      obtain ⟨other, hOther, rfl⟩ := List.mem_map.mp hMem
      rw [Session.isError_located]
      exact hEvents other (List.mem_filter.mp hOther).1
    rw [hCodes, List.map_eq_nil_iff, List.filter_eq_nil_iff]
    simpa using hNone

/-! ## All files -/

/-- A run between two files, after those with the given names. -/
structure Visited (host : Host) (options : Options) (names : List String) (progress : Progress) :
    Prop where
  chosen_eq : progress.session.chosen = some (preferences host options)
  context_eq : progress.session.context = none
  failures_eq : progress.failures =
    names.countP fun name => errorCodes host options ⟨name⟩ ≠ []
  /-- Each file has an entry with its errors. Entries are in the order of paths, names in the order of
  the run. -/
  collected : ∃ collector, progress.session.collector = some collector ∧
    collector.limit = host.limits.maxEventsPerFile ∧
    collector.errorCodes.Perm (names.map fun name => (⟨name⟩, errorCodes host options ⟨name⟩))

/-- The session after the events of one more file, which are logged within the context of the file. -/
def heard (host : Host) (options : Options) (tokenizer : Tokenizer) (progress : Progress)
    (path : Path) : Session :=
  ((progress.session.enter ⟨path, progress.visited + 1⟩).logAll
    (tokenizeOne host (preferences host options) tokenizer options path).events).leave

theorem preferences_enter (hChosen : progress.session.chosen = some (preferences host options))
    (context : FileContext) :
    (progress.session.enter context).preferences = preferences host options := by
  have hEntered : (progress.session.enter context).chosen = some (preferences host options) :=
    hChosen
  rw [Session.preferences, hEntered]
  rfl

theorem visit_of_ok {text : String}
    (hChosen : progress.session.chosen = some (preferences host options))
    (hValue : (tokenizeOne host (preferences host options) tokenizer options path).value =
      .ok text) :
    visit host tokenizer options progress path =
      { progress with
        session := (heard host options tokenizer progress path).print text
        visited := progress.visited + 1 } := by
  simp only [visit, Session.take, preferences_enter hChosen, hValue, heard]

theorem visit_of_error {message : String}
    (hChosen : progress.session.chosen = some (preferences host options))
    (hValue : (tokenizeOne host (preferences host options) tokenizer options path).value =
      .error message) :
    visit host tokenizer options progress path =
      { session := (heard host options tokenizer progress path).printError
          ("error: " ++ path.text ++ ": " ++ message ++ "\n")
        visited := progress.visited + 1
        failures := progress.failures + 1 } := by
  simp only [visit, Session.take, preferences_enter hChosen, hValue, heard]

/-- The events of a file change nothing but what is written and collected. -/
theorem heard_frame (host : Host) (options : Options) (tokenizer : Tokenizer) (progress : Progress)
    (path : Path) :
    let session := heard host options tokenizer progress path
    session.chosen = progress.session.chosen ∧ session.context = none ∧
      session.collector = ((progress.session.enter ⟨path, progress.visited + 1⟩).logAll
        (tokenizeOne host (preferences host options) tokenizer options path).events).collector :=
  ⟨(Session.logAll_frame _ _).2.1, rfl, rfl⟩

/-- What a visit changes. -/
theorem visit_frame (tokenizer : Tokenizer) (path : Path)
    (hChosen : progress.session.chosen = some (preferences host options)) :
    let one := tokenizeOne host (preferences host options) tokenizer options path
    let entered := progress.session.enter ⟨path, progress.visited + 1⟩
    let visited := visit host tokenizer options progress path
    visited.session.chosen = progress.session.chosen ∧ visited.session.context = none ∧
      visited.session.collector = (entered.logAll one.events).collector ∧
      visited.failures = progress.failures + if one.value.toBool then 0 else 1 := by
  intro one entered visited
  obtain ⟨hHeard, hContext, hCollector⟩ := heard_frame host options tokenizer progress path
  cases hValue : one.value with
  | ok text =>
    rw [show visited = _ from visit_of_ok hChosen hValue]
    exact ⟨hHeard, hContext, hCollector, rfl⟩
  | error message =>
    rw [show visited = _ from visit_of_error hChosen hValue]
    exact ⟨hHeard, hContext, hCollector, rfl⟩

theorem Visited.visit (h : Visited host options names progress)
    (hLimits : tokenizer.limits = host.limits) (hRoom : 2 ≤ host.limits.maxEventsPerFile)
    (hNew : ∀ other ∈ names, (Path.mk name).components ≠ (Path.mk other).components) :
    Visited host options (names ++ [name]) (visit host tokenizer options progress ⟨name⟩) := by
  obtain ⟨collector, hCollector, hLimit, hCodes⟩ := h.collected
  obtain ⟨hChosen, hContext, hCollected, hFailures⟩ :=
    visit_frame tokenizer ⟨name⟩ h.chosen_eq
  refine ⟨hChosen.trans h.chosen_eq, hContext, ?_, ?_⟩
  · rw [hFailures, h.failures_eq, List.countP_append, List.countP_singleton]
    rcases tokenizeOne_cases options ⟨name⟩ hLimits with
      ⟨event, error, hValue, -, -, -, hCodes⟩ | ⟨text, hValue, -, hCodes⟩
    · simp [hValue, hCodes, Except.toBool]
    · simp [hValue, hCodes, Except.toBool]
  · -- The file has its entry before any of its events arrives.
    have hEntered : (progress.session.enter ⟨⟨name⟩, progress.visited + 1⟩).collector =
        some (collector.update ⟨name⟩ id) := by
      rw [Session.enter, hCollector]
      rfl
    rw [Session.collector_logAll rfl hEntered, hLimit] at hCollected
    refine ⟨_, hCollected, hLimit, ?_⟩
    have hFresh : ∀ entry ∈ collector.errorCodes,
        (Path.mk name).components ≠ entry.1.components := by
      intro entry hMem
      obtain ⟨other, hOther, rfl⟩ := List.mem_map.mp (hCodes.mem_iff.mp hMem)
      exact hNew other hOther
    refine (Collector.errorCodes_update_perm hFresh _).trans ?_
    rw [List.map_append, List.map_singleton]
    refine List.Perm.trans ?_ (List.perm_append_singleton _ _).symm
    rw [Function.comp_apply, id, codes_keep_tokenizeOne hLimits hRoom]
    exact hCodes.cons _

theorem Visited.foldl (h : Visited host options names progress)
    (hLimits : tokenizer.limits = host.limits) (hRoom : 2 ≤ host.limits.maxEventsPerFile)
    {more : List String}
    (hDifferent : (names ++ more).Pairwise fun a b =>
      (Path.mk a).components ≠ (Path.mk b).components) :
    Visited host options (names ++ more)
      ((more.map Path.mk).foldl (CommandLine.visit host tokenizer options) progress) := by
  induction more generalizing names progress with
  | nil => rwa [List.append_nil]
  | cons name more ih =>
    have hNew : ∀ other ∈ names, (Path.mk name).components ≠ (Path.mk other).components :=
      fun other hOther =>
        ((List.pairwise_append.mp hDifferent).2.2 other hOther name List.mem_cons_self).symm
    rw [List.append_cons] at hDifferent ⊢
    exact ih (h.visit hLimits hRoom hNew) hDifferent

/-! ## Whole runs -/

/-- The session of a run once logging is set up. -/
def initial (host : Host) (options : Options) : Session where
  environment := host.environment
  limits := host.limits
  chosen := some (preferences host options)
  service := some (Session.configuredService (preferences host options))
  collector := some { limit := host.limits.maxEventsPerFile }
  outlets := { width := host.limits.maxMessageLength }

/-- Every run starts whose limits let logging start. -/
theorem setUp_eq (options : Options) (hLogging : Session.limitsFault? host.limits = none) :
    setUp host options = .ok ((initial host options).dispatch
      (.success .loggingReady "Global logging system initialized")) := by
  change Session.setUp _ = _
  rw [Session.setUp, hLogging]
  rfl

theorem exists_setUp (options : Options) (hLogging : Session.limitsFault? host.limits = none) :
    ∃ session, setUp host options = .ok session ∧
      session.chosen = some (preferences host options) ∧ session.context = none ∧
      session.collector = some { limit := host.limits.maxEventsPerFile } := by
  obtain ⟨-, hChosen, hContext, hCollector⟩ := (initial host options).dispatch_frame
    (.success .loggingReady "Global logging system initialized")
  exact ⟨_, setUp_eq options hLogging, hChosen, hContext, hCollector⟩

/-- Before the first file nothing was collected, whatever was logged. -/
theorem visited_nil {session : Session}
    (hChosen : session.chosen = some (preferences host options)) (hContext : session.context = none)
    (hCollector : session.collector = some { limit := host.limits.maxEventsPerFile })
    (events : List Event) : Visited host options [] { session := session.logAll events } := by
  obtain ⟨-, hChosen', hContext'⟩ := session.logAll_frame events
  refine ⟨hChosen'.trans hChosen, hContext'.trans hContext, rfl,
    { limit := host.limits.maxEventsPerFile }, ?_, rfl, List.Perm.refl _⟩
  rw [← hCollector]
  exact Session.collector_logAll_of_context_eq_none hContext events

/-- The end of a run leaves the summary as it is. -/
theorem summary_conclude (hContext : progress.session.context = none) :
    (conclude host options progress).session.summary = progress.session.summary := by
  have hCollector := Session.collector_log_of_context_eq_none hContext
    (finished options.files.length progress.failures host.runningTime)
  have hReport (session : Session) : session.printReport.collector = session.collector := by
    unfold Session.printReport
    split
    · split <;> rfl
    · rfl
  simp only [conclude, Session.summary, hReport, hCollector]

theorem sum_length_errorCodes (names : List String) :
    (names.map fun name => (errorCodes host options ⟨name⟩).length).sum =
      2 * names.countP fun name => errorCodes host options ⟨name⟩ ≠ [] := by
  have hTwo (name : String) : (errorCodes host options ⟨name⟩).length =
      2 * if errorCodes host options ⟨name⟩ ≠ [] then 1 else 0 := by
    unfold errorCodes
    split <;> rfl
  induction names with
  | nil => rfl
  | cons name names ih =>
    rw [List.map_cons, List.sum_cons, ih, hTwo, List.countP_cons, Nat.mul_add, Nat.add_comm]
    simp only [decide_eq_true_eq]

/-- What a run has collected after its files: each file is one entry, with the errors of that file.
-/
theorem Visited.summary_eq (h : Visited host options names progress) :
    progress.session.summary.files = names.length ∧
      progress.session.summary.failed = progress.failures ∧
      progress.session.summary.successful + progress.session.summary.failed = names.length ∧
      progress.session.summary.errors = 2 * progress.failures := by
  obtain ⟨collector, hCollector, -, hCodes⟩ := h.collected
  obtain ⟨hFiles, hSuccessful, hFailed, hErrors⟩ :=
    Collector.summary_eq_of_errorCodes_perm hCodes
  have hSummary : progress.session.summary = collector.summary := by
    rw [Session.summary, hCollector]
    rfl
  rw [hSummary, hFiles, hSuccessful, hFailed, hErrors, h.failures_eq]
  refine ⟨?_, ?_, ?_, ?_⟩
  · rw [List.length_map]
  · simp [List.countP_map, Function.comp_def]
  · have hSplit := List.length_eq_countP_add_countP (fun name => errorCodes host options ⟨name⟩ = [])
      (l := names)
    simpa [List.countP_map, Function.comp_def] using hSplit.symm
  · rw [List.map_map]
    exact sum_length_errorCodes names

/-- The errors that were collected for a file are those of reading it. -/
theorem Visited.codes_fileErrors (h : Visited host options names progress)
    (hDifferent : names.Pairwise fun a b => (Path.mk a).components ≠ (Path.mk b).components)
    (hMem : name ∈ names) :
    (progress.session.fileErrors ⟨name⟩).toList.map Event.code = errorCodes host options ⟨name⟩ := by
  obtain ⟨collector, hCollector, -, hCodes⟩ := h.collected
  have hErrors : (progress.session.fileErrors ⟨name⟩).toList.map Event.code =
      Collector.codesOf (collector.events ⟨name⟩) := by
    rw [Session.fileErrors, hCollector]
    simp [Collector.errors, Collector.codesOf]
  rw [hErrors]
  apply Collector.codesOf_events_eq
  · exact hCodes.mem_iff.mpr (List.mem_map_of_mem hMem)
  · intro entry hEntry hSame
    obtain ⟨other, hOther, rfl⟩ := List.mem_map.mp (hCodes.mem_iff.mp hEntry)
    have hInjective := List.inj_on_of_nodup_map (List.pairwise_map.mpr hDifferent)
    rw [hInjective hMem hOther hSame]

/-- In a run over files with different paths the count of failures, the summary and the exit status
agree: every file is in the summary, those that could not be read failed with two errors each, and
the status is 1 if there is one of them and 0 otherwise. -/
theorem exitCode_agrees_with_summary (host : Host) (options : Options) {ruleSet : RuleSet}
    (hLogging : Session.limitsFault? host.limits = none)
    (hRoom : 2 ≤ host.limits.maxEventsPerFile)
    (hRules : (rules host options).value = .ok ruleSet)
    (hDifferent : options.files.Pairwise fun a b =>
      (Path.mk a).components ≠ (Path.mk b).components) :
    ∃ (session : Session) (progress : Progress),
      setUp host options = .ok session ∧
      progress = visitAll host
        (Tokenizer.ofRuleSet ruleSet (.ofEnvironment host.environment) host.limits) options
        ((session.log (starting options)).take (rules host options)).2 ∧
      run host options = conclude host options progress ∧
      progress.session.summary.files = options.files.length ∧
      progress.session.summary.failed = progress.failures ∧
      progress.session.summary.successful + progress.session.summary.failed = options.files.length ∧
      progress.session.summary.errors = 2 * progress.failures ∧
      progress.failures = (options.files.countP fun name => errorCodes host options ⟨name⟩ ≠ []) ∧
      (∀ name ∈ options.files, (progress.session.fileErrors ⟨name⟩).toList.map Event.code =
        errorCodes host options ⟨name⟩) ∧
      (run host options).session.summary = progress.session.summary ∧
      (run host options).exitCode = if 0 < progress.session.summary.failed then 1 else 0 := by
  obtain ⟨session, hSetUp, hChosen, hContext, hCollector⟩ := exists_setUp options hLogging
  let tokenizer := Tokenizer.ofRuleSet ruleSet (.ofEnvironment host.environment) host.limits
  let events := starting options :: (rules host options).events
  let progress := visitAll host tokenizer options (session.logAll events)
  have hVisited : Visited host options options.files progress :=
    (visited_nil hChosen hContext hCollector events).foldl rfl hRoom hDifferent
  have hRun : run host options = conclude host options progress := by
    simp only [run, hSetUp, Session.take, hRules]
    rfl
  obtain ⟨hFiles, hFailed, hSuccessful, hErrors⟩ := hVisited.summary_eq
  refine ⟨session, progress, hSetUp, rfl, hRun, hFiles, hFailed, hSuccessful, hErrors,
    hVisited.failures_eq, fun name => hVisited.codes_fileErrors hDifferent, ?_, ?_⟩
  · rw [hRun]
    exact summary_conclude hVisited.context_eq
  · rw [hRun, hFailed]
    rfl

/-- A file that is not there and one with a single line. -/
theorem exitCode_of_missing_file :
    let host : Host :=
      { files := ⟨fun path =>
          if path.text = "a" then .missing .notFound
          else .regular ⟨.ok path, .ok 2, .ok ⟨#[120, 10]⟩⟩⟩ }
    let options : Options := { files := ["a", "./b"] }
    Session.limitsFault? host.limits = none ∧ 2 ≤ host.limits.maxEventsPerFile ∧
      (rules host options).value = .ok .cLike ∧
      options.files.Pairwise (fun a b => (Path.mk a).components ≠ (Path.mk b).components) ∧
      (run host options).exitCode = 1 ∧
      (run host options).session.summary.failed = 1 ∧
      (run host options).session.summary.errors = 2 := by
  intro host options
  have hLogging : Session.limitsFault? host.limits = none := rfl
  have hRoom : 2 ≤ host.limits.maxEventsPerFile := by decide
  have hRules : (rules host options).value = .ok .cLike := rfl
  have hDifferent : options.files.Pairwise fun a b =>
      (Path.mk a).components ≠ (Path.mk b).components := by
    have hFirst : (Path.mk "a").components ≠ (Path.mk "./b").components := by decide
    simpa [options] using hFirst
  obtain ⟨session, progress, -, -, -, -, hFailed, -, hErrors, hFailures, -, hSummary, hExitCode⟩ :=
    exitCode_agrees_with_summary host options hLogging hRoom hRules hDifferent
  have hAccepted : Source.Accepted host.files host.limits (.ofEnvironment host.environment)
      ⟨"./b"⟩ ⟨"./b"⟩ 2 "x\n" :=
    { pathGiven := by decide
      entry_eq := rfl
      size_le := by decide
      notEmpty := Or.inr rfl
      extension := Or.inl rfl
      lines_le := by decide }
  have hMissing : errorCodes host options ⟨"a"⟩ = [.fileNotFound, .sourceUnavailable] := rfl
  have hRead : errorCodes host options ⟨"./b"⟩ = [] := by
    obtain ⟨file, hFile⟩ := Source.exists_read_eq_ok_iff.mpr ⟨⟨"./b"⟩, 2, "x\n", hAccepted⟩
    rw [errorCodes, reading, hFile]
  have hOne : progress.failures = 1 := by
    rw [hFailures]
    simp [options, hMissing, hRead]
  rw [hOne] at hFailed hErrors
  rw [hFailed] at hExitCode
  exact ⟨hLogging, hRoom, hRules, hDifferent, hExitCode, hSummary ▸ hFailed, hSummary ▸ hErrors⟩

end Lineation.CommandLine
