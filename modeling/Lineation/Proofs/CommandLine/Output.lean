import Lineation.Proofs.CommandLine.ExitCode
import Lineation.Proofs.Diagnostics.Output

/-!
# What a run prints

The files of a run share a tokenizer, a session and a collector, but none of them can be seen in
what another one prints. If no event is written to the standard output, that output is what the
files show one after the other, and a file that is not accepted shows nothing.

* `visit_output`: what one file adds to the output.
* `Printed.visit`, `Printed.foldl`: what was printed after some files.
* `shown_congr`: what a file shows depends on nothing but what stands at its path.
* `run_output`: all of this for a whole run.

The same file may be named more than once.
-/

namespace Lineation.CommandLine

open Diagnostics

variable {host : Host} {options : Options} {tokenizer : Tokenizer} {path : Path}
  {progress : Progress} {names : List String} {name : String}

/-! ## One file -/

/-- The text of a file, if the file is accepted. -/
def accepted? (host : Host) (options : Options) (path : Path) : Option String :=
  (reading host options path).value.toOption.map SourceFile.text

/-- What a file shows, if it is accepted: its text alone is split and rendered. -/
def shown (host : Host) (options : Options) (tokenizer : Tokenizer) (path : Path) : Option String :=
  (accepted? host options path).bind fun text =>
    (render options path (.ofRecords (tokenizer.tokenize text).records)).toOption

theorem accepted?_eq_some_iff {text : String} :
    accepted? host options path = some text ↔
      ∃ canonical size, Source.Accepted host.files host.limits (.ofEnvironment host.environment)
        path canonical size text := by
  rw [← Source.exists_read_text_iff, accepted?]
  change _ ↔ ∃ file, (reading host options path).value = .ok file ∧ file.text = text
  cases (reading host options path).value <;> simp [Except.toOption]

theorem toOption_tokenizeOne (options : Options) (path : Path)
    (hLimits : tokenizer.limits = host.limits) :
    (tokenizeOne host (preferences host options) tokenizer options path).value.toOption =
      shown host options tokenizer path := by
  unfold shown accepted?
  cases hValue : (reading host options path).value with
  | error cause =>
    rw [tokenizeOne_of_error hLimits hValue]
    rfl
  | ok file =>
    obtain ⟨text, hText⟩ := exists_render options path (tokenizer.tokenizeSource file).value
    have hRender : render options path (.ofRecords (tokenizer.tokenize file.text).records) =
        .ok text := hText
    rw [tokenizeOne_of_ok hLimits hValue hText]
    simp only [Except.toOption, Option.map_some, Option.bind_some, hRender]

theorem isSome_shown_iff :
    (shown host options tokenizer path).isSome = true ↔
      ∃ file, (reading host options path).value = .ok file := by
  unfold shown accepted?
  cases (reading host options path).value with
  | error cause => simp [Except.toOption]
  | ok file =>
    obtain ⟨text, hText⟩ :=
      exists_render options path (.ofRecords (tokenizer.tokenize file.text).records)
    simp [Except.toOption, hText]

/-- In the first format the rows of the records follow a heading, if there are several files. -/
theorem shown_of_text {file : SourceFile} (hFile : (reading host options path).value = .ok file)
    (hFormat : options.format.getD .text = .text) :
    shown host options tokenizer path =
      some ((if 1 < options.files.length then "==> " ++ path.text ++ " <==\n" else "") ++
        String.join ((tokenizer.tokenize file.text).records.map Render.recordRow)) := by
  simp [shown, accepted?, hFile, render, hFormat, Except.toOption, Render.text, Options.headings,
    TokenStream.ofRecords, TokenStream.ofLines]

/-- What a file shows depends on nothing but the environment, the limits and what stands at its
path. -/
theorem shown_congr {other : Host} (hEnvironment : other.environment = host.environment)
    (hLimits : other.limits = host.limits)
    (hEntry : other.files.entry path = host.files.entry path) :
    shown other options tokenizer path = shown host options tokenizer path := by
  have hAccepted : accepted? other options path = accepted? host options path := by
    ext text
    rw [accepted?_eq_some_iff, accepted?_eq_some_iff, hEnvironment, hLimits]
    constructor
    · rintro ⟨canonical, size, h⟩
      exact ⟨canonical, size, h.congr hEntry.symm⟩
    · rintro ⟨canonical, size, h⟩
      exact ⟨canonical, size, h.congr hEntry⟩
  rw [shown, shown, hAccepted]

/-! ## Between two files -/

/-- A file adds to the output what it shows, whatever was done before. -/
theorem visit_output (path : Path) (hLimits : tokenizer.limits = host.limits)
    (hChosen : progress.session.chosen = some (preferences host options))
    (hQuiet : progress.session.Quiet) :
    let visited := visit host tokenizer options progress path
    visited.session.Quiet ∧
      visited.session.outlets.standardOutput =
        progress.session.outlets.standardOutput ++
          (shown host options tokenizer path).getD "" := by
  intro visited
  let one := tokenizeOne host (preferences host options) tokenizer options path
  have hEntered : Session.SameOutput progress.session
      (progress.session.enter ⟨path, progress.visited + 1⟩) := ⟨rfl, rfl⟩
  have hLogged := hEntered.trans ((hEntered.quiet hQuiet).logAll one.events)
  have hHeard : Session.SameOutput progress.session (heard host options tokenizer progress path) :=
    hLogged.trans ⟨rfl, rfl⟩
  have hShown := toOption_tokenizeOne options path hLimits
  cases hValue : one.value with
  | ok text =>
    rw [show visited = _ from visit_of_ok hChosen hValue, ← hShown, hValue]
    refine ⟨hHeard.quiet hQuiet, ?_⟩
    dsimp only
    rw [Session.print, Outlets.standardOutput_write, hHeard.output_eq]
    rfl
  | error message =>
    rw [show visited = _ from visit_of_error hChosen hValue, ← hShown, hValue]
    have hError := hHeard.trans
      (Session.sameOutput_printError _ ("error: " ++ path.text ++ ": " ++ message ++ "\n"))
    refine ⟨hError.quiet hQuiet, ?_⟩
    dsimp only
    rw [hError.output_eq, Except.toOption, Option.getD_none, String.append_empty]

/-- A run between two files, after those with the given names. -/
structure Printed (host : Host) (options : Options) (tokenizer : Tokenizer) (names : List String)
    (progress : Progress) : Prop where
  chosen_eq : progress.session.chosen = some (preferences host options)
  quiet : progress.session.Quiet
  output_eq : progress.session.outlets.standardOutput =
    String.join (names.filterMap fun name => shown host options tokenizer ⟨name⟩)
  failures_eq : progress.failures =
    names.countP fun name => (shown host options tokenizer ⟨name⟩).isNone

theorem Printed.visit (h : Printed host options tokenizer names progress)
    (hLimits : tokenizer.limits = host.limits) (name : String) :
    Printed host options tokenizer (names ++ [name])
      (visit host tokenizer options progress ⟨name⟩) := by
  obtain ⟨hChosen, -, -, hFailures⟩ := visit_frame tokenizer ⟨name⟩ h.chosen_eq
  obtain ⟨hQuiet, hOutput⟩ := visit_output ⟨name⟩ hLimits h.chosen_eq h.quiet
  have hShown := toOption_tokenizeOne options ⟨name⟩ hLimits
  refine ⟨hChosen.trans h.chosen_eq, hQuiet, ?_, ?_⟩
  · rw [hOutput, h.output_eq, List.filterMap_append, String.join_append]
    cases hName : shown host options tokenizer ⟨name⟩ with
    | none => simp [hName]
    | some text => simp [hName]
  · rw [hFailures, h.failures_eq, List.countP_append, List.countP_singleton, ← hShown]
    cases (tokenizeOne host (preferences host options) tokenizer options ⟨name⟩).value <;> rfl

theorem Printed.foldl (h : Printed host options tokenizer names progress)
    (hLimits : tokenizer.limits = host.limits) (more : List String) :
    Printed host options tokenizer (names ++ more)
      ((more.map Path.mk).foldl (CommandLine.visit host tokenizer options) progress) := by
  induction more generalizing names progress with
  | nil => rwa [List.append_nil]
  | cons name more ih =>
    rw [List.append_cons]
    exact ih (h.visit hLimits name)

/-! ## Whole runs -/

/-- Nothing is printed before the first file. -/
theorem exists_setUp_quiet (options : Options)
    (hLogging : Session.limitsFault? host.limits = none)
    (hQuiet : (preferences host options).Quiet) :
    ∃ session, setUp host options = .ok session ∧
      session.chosen = some (preferences host options) ∧ session.Quiet ∧
      session.outlets.standardOutput = "" := by
  have hInitial : (initial host options).Quiet := by
    rintro service ⟨⟩
    exact quiet_configuredService hQuiet
  have hReady := hInitial.dispatch (.success .loggingReady "Global logging system initialized")
  obtain ⟨-, hChosen, -, -⟩ := (initial host options).dispatch_frame
    (.success .loggingReady "Global logging system initialized")
  exact ⟨_, setUp_eq options hLogging, hChosen, hReady.quiet hInitial, hReady.output_eq⟩

/-- The output of a run in which no event goes to the standard output is what its files show, in the
order of the arguments. A file shows something when it is accepted, and then what its text alone
gives; in the first format a heading precedes it if there are several files. The exit status is 0
when all files are accepted. -/
theorem run_output (host : Host) (options : Options) {ruleSet : RuleSet}
    (hLogging : Session.limitsFault? host.limits = none)
    (hRules : (rules host options).value = .ok ruleSet)
    (hQuiet : (preferences host options).Quiet) :
    let tokenizer := Tokenizer.ofRuleSet ruleSet (.ofEnvironment host.environment) host.limits
    let outcome := run host options
    outcome.session.outlets.standardOutput =
        String.join (options.files.filterMap fun name => shown host options tokenizer ⟨name⟩) ∧
      (∀ name, (shown host options tokenizer ⟨name⟩).isSome = true ↔
        ∃ file, (reading host options ⟨name⟩).value = .ok file) ∧
      (∀ name file, (reading host options ⟨name⟩).value = .ok file →
        options.format.getD .text = .text →
        shown host options tokenizer ⟨name⟩ =
          some ((if 1 < options.files.length then "==> " ++ name ++ " <==\n" else "") ++
            String.join ((tokenizer.tokenize file.text).records.map Render.recordRow))) ∧
      (∀ (name : String) (other : Host), other.environment = host.environment →
        other.limits = host.limits → other.files.entry ⟨name⟩ = host.files.entry ⟨name⟩ →
        shown other options tokenizer ⟨name⟩ = shown host options tokenizer ⟨name⟩) ∧
      (outcome.exitCode = 0 ↔ ∀ name ∈ options.files,
        ∃ file, (reading host options ⟨name⟩).value = .ok file) := by
  intro tokenizer outcome
  obtain ⟨session, hSetUp, hChosen, hStart, hNothing⟩ :=
    exists_setUp_quiet options hLogging hQuiet
  let events := starting options :: (rules host options).events
  have hLogged := hStart.logAll events
  let progress := visitAll host tokenizer options (session.logAll events)
  have hBefore : Printed host options tokenizer [] { session := session.logAll events } :=
    ⟨(session.logAll_frame events).2.1.trans hChosen, hLogged.quiet hStart,
      hLogged.output_eq.trans hNothing, rfl⟩
  have hPrinted : Printed host options tokenizer options.files progress :=
    hBefore.foldl rfl options.files
  have hRun : outcome = conclude host options progress := by
    simp only [outcome, run, hSetUp, Session.take, hRules]
    rfl
  refine ⟨?_, fun _ => isSome_shown_iff, fun _ _ => shown_of_text, fun _ _ => shown_congr, ?_⟩
  · have hFinished := hPrinted.quiet.log
      (finished options.files.length progress.failures host.runningTime)
    rw [hRun, conclude, (hFinished.trans (Session.sameOutput_printReport _)).output_eq,
      hPrinted.output_eq]
  · have hCode : outcome.exitCode = 0 ↔ progress.failures = 0 := by
      rw [hRun, conclude]
      by_cases hNone : progress.failures = 0
      · simp [hNone]
      · simp [hNone, Nat.pos_of_ne_zero hNone]
    rw [hCode, hPrinted.failures_eq, List.countP_eq_zero]
    constructor
    · intro hShown name hMem
      have hSome : (shown host options tokenizer ⟨name⟩).isSome = true := by
        rw [← Option.isNone_eq_false_iff, ← Bool.not_eq_true]
        exact hShown name hMem
      exact isSome_shown_iff.mp hSome
    · intro hAccepted name hMem
      have hSome : (shown host options tokenizer ⟨name⟩).isSome = true :=
        isSome_shown_iff.mpr (hAccepted name hMem)
      rwa [Bool.not_eq_true, Option.isNone_eq_false_iff]

/-- A file that is not there, before and after one that is named twice. -/
theorem run_output_of_missing_file :
    let host : Host :=
      { files := ⟨fun path =>
          if path.text = "a" then .missing .notFound
          else .regular ⟨.ok path, .ok 2, .ok ⟨#[120, 10]⟩⟩⟩ }
    let options : Options := { files := ["a", "b", "a", "b"] }
    let row := "==> b <==\n   1 | \"x\" \"\\n\"\n"
    (Session.limitsFault? host.limits = none ∧ (rules host options).value = .ok .cLike ∧
        (preferences host options).Quiet) ∧
      (run host options).session.outlets.standardOutput = row ++ row ∧
      (run host options).exitCode ≠ 0 := by
  -- A row is made of the number and the texts of a record, which can be evaluated.
  have hRows : ((Tokenizer.ofRuleSet .cLike (.ofEnvironment {})).tokenize "x\n").records.map
      Render.recordRow = ["   1 | \"x\" \"\\n\"\n"] := by
    let rowOf (cut : Nat × List String) : String :=
      Render.column cut.1 ++ " | " ++ " ".intercalate (cut.2.map Text.quoted) ++ "\n"
    have hCut : (((Tokenizer.ofRuleSet .cLike (.ofEnvironment {})).tokenize "x\n").records.map
        fun record => (record.number, record.texts)) = [(1, ["x", "\n"])] := rfl
    have hRow : rowOf (1, ["x", "\n"]) = "   1 | \"x\" \"\\n\"\n" := by
      cbv
    have hMap := congrArg (List.map rowOf) hCut
    rw [List.map_map, List.map_singleton, hRow] at hMap
    exact hMap
  intro host options row
  have hLogging : Session.limitsFault? host.limits = none := rfl
  have hRules : (rules host options).value = .ok .cLike := rfl
  have hQuiet : (preferences host options).Quiet := Or.inr (Or.inr (Or.inr rfl))
  obtain ⟨hOutput, -, hText, -, hCode⟩ :=
    run_output host options hLogging hRules hQuiet
  let printed (name : String) := shown host options
    (Tokenizer.ofRuleSet .cLike (.ofEnvironment host.environment) host.limits) ⟨name⟩
  have hMissing : printed "a" = none := rfl
  have hShown : printed "b" = some row := by
    have hAccepted : Source.Accepted host.files host.limits (.ofEnvironment host.environment)
        ⟨"b"⟩ ⟨"b"⟩ 2 "x\n" :=
      { pathGiven := by decide
        entry_eq := rfl
        size_le := by decide
        notEmpty := Or.inr rfl
        extension := Or.inl rfl
        lines_le := by decide }
    obtain ⟨file, hFile, hFileText⟩ := Source.exists_read_text_iff.mpr ⟨_, _, hAccepted⟩
    refine (hText "b" file hFile rfl).trans ?_
    rw [hFileText, hRows]
    rfl
  have hPrinted : options.files.filterMap printed = [row, row] := by
    change ["a", "b", "a", "b"].filterMap printed = _
    rw [List.filterMap_cons_none hMissing, List.filterMap_cons_some hShown,
      List.filterMap_cons_none hMissing, List.filterMap_cons_some hShown, List.filterMap_nil]
  refine ⟨⟨hLogging, hRules, hQuiet⟩, ?_, ?_⟩
  · rw [hOutput, hPrinted]
    rfl
  · intro hZero
    obtain ⟨file, hFile⟩ := hCode.mp hZero "a" (by simp [options])
    cases hFile

end Lineation.CommandLine
