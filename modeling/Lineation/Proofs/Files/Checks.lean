import Lineation.Proofs.Files.Reading
import Lineation.Proofs.Text.Lowercase
import Lineation.Proofs.Tokenizer.Words
import Lineation.Tokenizer.File

/-!
# Which files are read

Eleven checks stand between a path and a text. Each of them is a condition on the path and on what
the system answers about it (`Fails`), said without regard to the others, so that several can fail
at once. The first one that does decides (`FirstFault`). Two of them ask the system about a file
that is there; where it answers, the other nine decide (`firstFault_listed_iff`).

The checks are made in six functions, and each of these makes some consecutive ones (`Follows`).
Where one function goes on after another, its checks go on after those of the other
(`Follows.bind`), so that reading a file makes all of them in order (`follows_load`).
`read_makes_checks_in_order` says what this means for a file that is read or tokenized.
-/

namespace Lineation.Source

open Diagnostics

/-! ## The checks -/

/-- The checks on a file. -/
inductive Check where
  | pathGiven
  | somethingThere
  | fileThere
  | resolved
  | described
  | size
  | notEmpty
  | extension
  | readable
  | encoding
  | lines
deriving Repr, DecidableEq

/-- The checks in the order in which they are made. -/
def Check.all : List Check :=
  [.pathGiven, .somethingThere, .fileThere, .resolved, .described, .size, .notEmpty, .extension,
    .readable, .encoding, .lines]

/-- The checks on a file that the system resolves and describes. -/
def Check.listed : List Check :=
  [.pathGiven, .somethingThere, .fileThere, .size, .notEmpty, .extension, .readable, .encoding,
    .lines]

/-- The reason that a fault of the system gives, by its kind. Only for the last one it matters what
was tried and what the system says. -/
inductive FaultReason (path tried : String) : SystemFault → FileError → Prop
  | notFound {message : String} : FaultReason path tried ⟨.notFound, message⟩ (.notFound path)
  | permissionDenied {message : String} :
    FaultReason path tried ⟨.permissionDenied, message⟩ (.permissionDenied path)
  | invalidData {message : String} :
    FaultReason path tried ⟨.invalidData, message⟩ (.encodingInvalid path)
  | other {message : String} : FaultReason path tried ⟨.other, message⟩
    (.readFault (tried ++ " '" ++ path ++ "': " ++ message))

section

variable (files : FileSystem) (limits : Limits) (preferences : FilePreferences) (path : Path)

/-- A check that does not pass, and the reason to refuse the file that it gives. What is asked of a
regular file is asked of nothing else. -/
inductive Fails : Check → FileError → Prop
  | pathGiven (hPath : path.text = "") : Fails .pathGiven (.pathInvalid "")
  | somethingThere {fault : SystemFault} (hEntry : files.entry path = .missing fault) :
    Fails .somethingThere (.notFound path.text)
  | fileThere (hEntry : files.entry path = .directory) :
    Fails .fileThere (.pathInvalid path.text)
  | resolved {file : RegularFile} {fault : SystemFault} {error : FileError}
    (hEntry : files.entry path = .regular file) (hCanonical : file.canonical = .error fault)
    (hReason : FaultReason path.text "Failed to resolve path" fault error) : Fails .resolved error
  | described {file : RegularFile} {canonical : Path} {fault : SystemFault} {error : FileError}
    (hEntry : files.entry path = .regular file) (hCanonical : file.canonical = .ok canonical)
    (hSize : file.size = .error fault)
    (hReason : FaultReason canonical.text "Failed to read file metadata" fault error) :
    Fails .described error
  | size {file : RegularFile} {size : Nat} (hEntry : files.entry path = .regular file)
    (hSize : file.size = .ok size) (hLarge : limits.maxFileSize < size) :
    Fails .size (.tooLarge size limits.maxFileSize)
  | notEmpty {file : RegularFile} (hEntry : files.entry path = .regular file)
    (hSize : file.size = .ok 0) (hReject : preferences.rejectEmpty = true) : Fails .notEmpty .empty
  | extension {file : RegularFile} {canonical : Path} {extension : Option String}
    (hEntry : files.entry path = .regular file) (hCanonical : file.canonical = .ok canonical)
    (hLower : Option.Rel Text.Lowered canonical.extension? extension)
    (hListed : preferences.extensions ≠ [])
    (hOther : ∀ accepted ∈ preferences.extensions, extension ≠ some accepted) :
    Fails .extension (.extensionRefused extension preferences.extensions)
  | readable {file : RegularFile} {canonical : Path} {fault : SystemFault} {error : FileError}
    (hEntry : files.entry path = .regular file) (hCanonical : file.canonical = .ok canonical)
    (hContent : file.content = .error fault)
    (hReason : FaultReason canonical.text "Failed to read file" fault error) :
    Fails .readable error
  | encoding {file : RegularFile} {bytes : ByteArray} (hEntry : files.entry path = .regular file)
    (hContent : file.content = .ok bytes) (hBytes : ∀ text : String, text.toUTF8 ≠ bytes) :
    Fails .encoding (.encodingInvalid path.text)
  | lines {file : RegularFile} {text : String} (hEntry : files.entry path = .regular file)
    (hContent : file.content = .ok text.toUTF8)
    (hLines : limits.maxLineCount < (physicalLines text.toList).length) :
    Fails .lines (.tooManyLines (physicalLines text.toList).length limits.maxLineCount)

/-- A check that no reason is given by. -/
def Passes (check : Check) : Prop := ∀ error, ¬ Fails files limits preferences path check error

/-- The reason that the first of some checks gives that does not pass. -/
def FirstFault : List Check → FileError → Prop
  | [], _ => False
  | check :: rest, error =>
    Fails files limits preferences path check error ∨
      Passes files limits preferences path check ∧ FirstFault rest error

/-- A path that names a regular file with this path without links and this size, which is read as
this text. -/
structure Accepted (canonical : Path) (size : Nat) (text : String) : Prop where
  pathGiven : path.text ≠ ""
  entry_eq : files.entry path =
    .regular { canonical := .ok canonical, size := .ok size, content := .ok text.toUTF8 }
  size_le : size ≤ limits.maxFileSize
  notEmpty : size ≠ 0 ∨ preferences.rejectEmpty = false
  extension : preferences.extensions = [] ∨ ∃ extension lowered,
    canonical.extension? = some extension ∧ Text.Lowered extension lowered ∧
      lowered ∈ preferences.extensions
  lines_le : (physicalLines text.toList).length ≤ limits.maxLineCount

/-- A result by some checks: a value if all of them pass, and otherwise the first reason. -/
def Follows {α : Type} (checks : List Check) (checked : Checked α) : Prop :=
  match checked.run.value with
  | .ok _ => ∀ check ∈ checks, Passes files limits preferences path check
  | .error error => FirstFault files limits preferences path checks error

end

variable {files : FileSystem} {limits : Limits} {preferences : FilePreferences} {path : Path}
  {check : Check} {checks more : List Check} {error other : FileError} {file : RegularFile}
  {canonical : Path} {size : Nat}

/-! ## Reasons and extensions -/

theorem FaultReason.unique {tried text : String} {fault : SystemFault}
    (h : FaultReason text tried fault error) (h' : FaultReason text tried fault other) :
    error = other := by
  cases h <;> cases h' <;> rfl

theorem exists_faultReason (text tried : String) (fault : SystemFault) :
    ∃ error, FaultReason text tried fault error := by
  obtain ⟨kind, message⟩ := fault
  cases kind with
  | notFound => exact ⟨_, .notFound⟩
  | permissionDenied => exact ⟨_, .permissionDenied⟩
  | invalidData => exact ⟨_, .invalidData⟩
  | other => exact ⟨_, .other⟩

theorem rel_lowered_iff {extension lowered : Option String} :
    Option.Rel Text.Lowered extension lowered ↔ lowered = extension.map Text.toLower := by
  cases extension <;> cases lowered <;> simp [Text.lowered_iff]

/-- An extension in lower case is one of those listed. -/
theorem map_toLower_mem_iff {extension : Option String} :
    (∃ accepted ∈ preferences.extensions, extension.map Text.toLower = some accepted) ↔
      ∃ text lowered, extension = some text ∧ Text.Lowered text lowered ∧
        lowered ∈ preferences.extensions := by
  cases extension <;> simp [Text.lowered_iff]

/-! ## What passes -/

theorem passes_pathGiven_iff :
    Passes files limits preferences path .pathGiven ↔ path.text ≠ "" := by
  constructor
  · exact fun h hPath => h _ (.pathGiven hPath)
  · intro h error hFails
    cases hFails with
    | pathGiven hPath => exact h hPath

theorem passes_somethingThere_iff :
    Passes files limits preferences path .somethingThere ↔
      ∀ fault, files.entry path ≠ .missing fault := by
  constructor
  · exact fun h fault hEntry => h _ (.somethingThere hEntry)
  · intro h error hFails
    cases hFails with
    | somethingThere hEntry => exact h _ hEntry

theorem passes_fileThere_iff :
    Passes files limits preferences path .fileThere ↔ files.entry path ≠ .directory := by
  constructor
  · exact fun h hEntry => h _ (.fileThere hEntry)
  · intro h error hFails
    cases hFails with
    | fileThere hEntry => exact h hEntry

section Regular

variable (hFile : files.entry path = .regular file)

include hFile

theorem eq_of_entry_eq {found : RegularFile} (h : files.entry path = .regular found) :
    found = file :=
  Entry.regular.inj (h.symm.trans hFile)

theorem passes_resolved_iff :
    Passes files limits preferences path .resolved ↔ ∃ canonical, file.canonical = .ok canonical := by
  constructor
  · intro h
    cases hCanonical : file.canonical with
    | error fault =>
      obtain ⟨error, hReason⟩ := exists_faultReason path.text "Failed to resolve path" fault
      exact absurd (.resolved hFile hCanonical hReason) (h error)
    | ok canonical => exact ⟨canonical, rfl⟩
  · rintro ⟨canonical, hOk⟩ error hFails
    cases hFails with
    | resolved hEntry hCanonical =>
      rw [eq_of_entry_eq hFile hEntry, hOk] at hCanonical
      cases hCanonical

theorem passes_described_iff (hCanonical : file.canonical = .ok canonical) :
    Passes files limits preferences path .described ↔ ∃ size, file.size = .ok size := by
  constructor
  · intro h
    cases hSize : file.size with
    | error fault =>
      obtain ⟨error, hReason⟩ :=
        exists_faultReason canonical.text "Failed to read file metadata" fault
      exact absurd (.described hFile hCanonical hSize hReason) (h error)
    | ok size => exact ⟨size, rfl⟩
  · rintro ⟨size, hOk⟩ error hFails
    cases hFails with
    | described hEntry _ hSize =>
      rw [eq_of_entry_eq hFile hEntry, hOk] at hSize
      cases hSize

theorem passes_size_iff (hSize : file.size = .ok size) :
    Passes files limits preferences path .size ↔ size ≤ limits.maxFileSize := by
  constructor
  · exact fun h => Nat.le_of_not_lt fun hLarge => h _ (.size hFile hSize hLarge)
  · intro h error hFails
    cases hFails with
    | size hEntry hFound hLarge =>
      rw [eq_of_entry_eq hFile hEntry, hSize] at hFound
      rw [← Except.ok.inj hFound] at hLarge
      omega

theorem passes_notEmpty_iff (hSize : file.size = .ok size) :
    Passes files limits preferences path .notEmpty ↔
      size ≠ 0 ∨ preferences.rejectEmpty = false := by
  constructor
  · intro h
    by_contra hEmpty
    rw [not_or, not_not, Bool.not_eq_false] at hEmpty
    exact h _ (.notEmpty hFile (hEmpty.1 ▸ hSize) hEmpty.2)
  · intro h error hFails
    cases hFails with
    | notEmpty hEntry hFound hReject =>
      rw [eq_of_entry_eq hFile hEntry, hSize] at hFound
      simp [Except.ok.inj hFound, hReject] at h

theorem passes_extension_iff (hCanonical : file.canonical = .ok canonical) :
    Passes files limits preferences path .extension ↔
      preferences.extensions = [] ∨ ∃ accepted ∈ preferences.extensions,
        canonical.extension?.map Text.toLower = some accepted := by
  constructor
  · intro h
    by_contra hOther
    rw [not_or, not_exists] at hOther
    exact h _ (.extension hFile hCanonical (rel_lowered_iff.mpr rfl) hOther.1
      fun accepted hMem hEq => hOther.2 accepted ⟨hMem, hEq⟩)
  · intro h error hFails
    cases hFails with
    | extension hEntry hFound hLower hListed hOther =>
      rw [eq_of_entry_eq hFile hEntry, hCanonical] at hFound
      rw [rel_lowered_iff, ← Except.ok.inj hFound] at hLower
      rcases h with hNone | ⟨accepted, hMem, hEq⟩
      · exact hListed hNone
      · exact hOther accepted hMem (hLower.trans hEq)

theorem passes_readable_iff (hCanonical : file.canonical = .ok canonical) :
    Passes files limits preferences path .readable ↔ ∃ bytes, file.content = .ok bytes := by
  constructor
  · intro h
    cases hContent : file.content with
    | error fault =>
      obtain ⟨error, hReason⟩ := exists_faultReason canonical.text "Failed to read file" fault
      exact absurd (.readable hFile hCanonical hContent hReason) (h error)
    | ok bytes => exact ⟨bytes, rfl⟩
  · rintro ⟨bytes, hOk⟩ error hFails
    cases hFails with
    | readable hEntry _ hContent =>
      rw [eq_of_entry_eq hFile hEntry, hOk] at hContent
      cases hContent

theorem passes_encoding_iff {bytes : ByteArray} (hContent : file.content = .ok bytes) :
    Passes files limits preferences path .encoding ↔ ∃ text : String, bytes = text.toUTF8 := by
  constructor
  · intro h
    by_contra hNone
    rw [not_exists] at hNone
    exact h _ (.encoding hFile hContent fun text hText => hNone text hText.symm)
  · rintro ⟨text, rfl⟩ error hFails
    cases hFails with
    | encoding hEntry hBytes hNone =>
      rw [eq_of_entry_eq hFile hEntry, hContent] at hBytes
      exact hNone text (Except.ok.inj hBytes)

theorem passes_lines_iff {text : String} (hContent : file.content = .ok text.toUTF8) :
    Passes files limits preferences path .lines ↔
      (physicalLines text.toList).length ≤ limits.maxLineCount := by
  constructor
  · exact fun h => Nat.le_of_not_lt fun hLines => h _ (.lines hFile hContent hLines)
  · intro h error hFails
    cases hFails with
    | lines hEntry hText hLines =>
      rw [eq_of_entry_eq hFile hEntry, hContent] at hText
      rw [← String.toByteArray_inj.mp (Except.ok.inj hText)] at hLines
      omega

end Regular

/-- All checks pass exactly if the path names a file that is read. -/
theorem passes_all_iff :
    (∀ check ∈ Check.all, Passes files limits preferences path check) ↔
      ∃ canonical size text, Accepted files limits preferences path canonical size text := by
  simp only [Check.all, List.forall_mem_cons, List.not_mem_nil, false_implies, implies_true,
    and_true, passes_pathGiven_iff, passes_somethingThere_iff, passes_fileThere_iff]
  constructor
  · rintro ⟨hPath, hSomething, hDirectory, hResolved, hDescribed, hRest⟩
    cases hEntry : files.entry path with
    | missing fault => exact absurd hEntry (hSomething fault)
    | directory => exact absurd hEntry hDirectory
    | regular file =>
      obtain ⟨canonical, hCanonical⟩ := (passes_resolved_iff hEntry).mp hResolved
      obtain ⟨size, hSize⟩ := (passes_described_iff hEntry hCanonical).mp hDescribed
      rw [passes_size_iff hEntry hSize, passes_notEmpty_iff hEntry hSize,
        passes_extension_iff hEntry hCanonical, passes_readable_iff hEntry hCanonical] at hRest
      obtain ⟨hLarge, hEmpty, hExtension, ⟨bytes, hBytes⟩, hEncoding, hLines⟩ := hRest
      obtain ⟨text, rfl⟩ := (passes_encoding_iff hEntry hBytes).mp hEncoding
      refine ⟨canonical, size, text, hPath, ?_, hLarge, hEmpty,
        hExtension.imp_right map_toLower_mem_iff.mp, (passes_lines_iff hEntry hBytes).mp hLines⟩
      rw [hEntry, ← hCanonical, ← hSize, ← hBytes]
  · rintro ⟨canonical, size, text, hPath, hEntry, hLarge, hEmpty, hExtension, hLines⟩
    rw [passes_resolved_iff hEntry, passes_described_iff hEntry rfl, passes_size_iff hEntry rfl,
      passes_notEmpty_iff hEntry rfl, passes_extension_iff hEntry rfl,
      passes_readable_iff hEntry rfl, passes_encoding_iff hEntry rfl, passes_lines_iff hEntry rfl]
    exact ⟨hPath, by simp [hEntry], by simp [hEntry], ⟨_, rfl⟩, ⟨_, rfl⟩, hLarge, hEmpty,
      hExtension.imp_right map_toLower_mem_iff.mpr, ⟨_, rfl⟩, ⟨text, rfl⟩, hLines⟩

/-! ## The first reason -/

/-- A check gives at most one reason. -/
theorem Fails.unique (h : Fails files limits preferences path check error)
    (h' : Fails files limits preferences path check other) : error = other := by
  cases h with
  | pathGiven =>
    cases h'
    rfl
  | somethingThere =>
    cases h'
    rfl
  | fileThere =>
    cases h'
    rfl
  | resolved hEntry hCanonical hReason =>
    cases h' with
    | resolved hEntry' hCanonical' hReason' =>
      obtain rfl := eq_of_entry_eq hEntry hEntry'
      rw [Except.error.inj (hCanonical.symm.trans hCanonical')] at hReason
      exact hReason.unique hReason'
  | described hEntry hCanonical hSize hReason =>
    cases h' with
    | described hEntry' hCanonical' hSize' hReason' =>
      obtain rfl := eq_of_entry_eq hEntry hEntry'
      rw [Except.ok.inj (hCanonical.symm.trans hCanonical'),
        Except.error.inj (hSize.symm.trans hSize')] at hReason
      exact hReason.unique hReason'
  | size hEntry hSize =>
    cases h' with
    | size hEntry' hSize' =>
      obtain rfl := eq_of_entry_eq hEntry hEntry'
      rw [Except.ok.inj (hSize.symm.trans hSize')]
  | notEmpty =>
    cases h'
    rfl
  | extension hEntry hCanonical hLower =>
    cases h' with
    | extension hEntry' hCanonical' hLower' =>
      obtain rfl := eq_of_entry_eq hEntry hEntry'
      rw [rel_lowered_iff] at hLower hLower'
      rw [hLower, hLower', Except.ok.inj (hCanonical.symm.trans hCanonical')]
  | readable hEntry hCanonical hContent hReason =>
    cases h' with
    | readable hEntry' hCanonical' hContent' hReason' =>
      obtain rfl := eq_of_entry_eq hEntry hEntry'
      rw [Except.ok.inj (hCanonical.symm.trans hCanonical'),
        Except.error.inj (hContent.symm.trans hContent')] at hReason
      exact hReason.unique hReason'
  | encoding =>
    cases h'
    rfl
  | lines hEntry hContent =>
    cases h' with
    | lines hEntry' hContent' =>
      obtain rfl := eq_of_entry_eq hEntry hEntry'
      rw [String.toByteArray_inj.mp (Except.ok.inj (hContent.symm.trans hContent'))]

theorem FirstFault.not_passes (h : FirstFault files limits preferences path checks error) :
    ∃ check ∈ checks, ¬ Passes files limits preferences path check := by
  induction checks with
  | nil => exact h.elim
  | cons check rest ih =>
    rcases h with hFails | ⟨-, hRest⟩
    · exact ⟨check, List.mem_cons_self, fun hPasses => hPasses _ hFails⟩
    · obtain ⟨later, hMem, hNot⟩ := ih hRest
      exact ⟨later, List.mem_cons_of_mem _ hMem, hNot⟩

theorem FirstFault.unique (h : FirstFault files limits preferences path checks error)
    (h' : FirstFault files limits preferences path checks other) : error = other := by
  induction checks with
  | nil => exact h.elim
  | cons check rest ih =>
    rcases h with hFails | ⟨hPasses, hRest⟩
    · rcases h' with hFails' | ⟨hPasses', -⟩
      · exact hFails.unique hFails'
      · exact absurd hFails (hPasses' _)
    · rcases h' with hFails' | ⟨-, hRest'⟩
      · exact absurd hFails' (hPasses _)
      · exact ih hRest hRest'

theorem FirstFault.append_left (h : FirstFault files limits preferences path checks error)
    (more : List Check) : FirstFault files limits preferences path (checks ++ more) error := by
  induction checks with
  | nil => exact h.elim
  | cons check rest ih =>
    rcases h with hFails | ⟨hPasses, hRest⟩
    · exact Or.inl hFails
    · exact Or.inr ⟨hPasses, ih hRest⟩

/-- A check that passes plays no part. -/
theorem firstFault_cons_iff_of_passes (h : Passes files limits preferences path check) :
    FirstFault files limits preferences path (check :: checks) error ↔
      FirstFault files limits preferences path checks error :=
  ⟨fun hFirst => hFirst.elim (fun hFails => absurd hFails (h error)) And.right,
    fun hRest => Or.inr ⟨h, hRest⟩⟩

/-- Where the system resolves and describes what is there, the nine other checks decide. -/
theorem firstFault_listed_iff
    (hAnswers : ∀ file, files.entry path = .regular file →
      (∃ canonical, file.canonical = .ok canonical) ∧ ∃ size, file.size = .ok size) :
    FirstFault files limits preferences path Check.all error ↔
      FirstFault files limits preferences path Check.listed error := by
  have hResolved : Passes files limits preferences path .resolved := by
    intro error hFails
    cases hFails with
    | resolved hEntry hCanonical =>
      obtain ⟨⟨canonical, hOk⟩, -⟩ := hAnswers _ hEntry
      cases hCanonical.symm.trans hOk
  have hDescribed : Passes files limits preferences path .described := by
    intro error hFails
    cases hFails with
    | described hEntry _ hSize =>
      obtain ⟨-, size, hOk⟩ := hAnswers _ hEntry
      cases hSize.symm.trans hOk
  have hRest : FirstFault files limits preferences path (Check.all.drop 3) error ↔
      FirstFault files limits preferences path (Check.listed.drop 3) error :=
    (firstFault_cons_iff_of_passes hResolved).trans (firstFault_cons_iff_of_passes hDescribed)
  exact or_congr_right (and_congr_right fun _ => or_congr_right (and_congr_right fun _ =>
    or_congr_right (and_congr_right fun _ => hRest)))

/-! ## Results -/

theorem Follows.nil {α : Type} {a : α} :
    Follows files limits preferences path [] (pure a : Checked α) :=
  fun _ hMem => absurd hMem List.not_mem_nil

theorem Follows.of_fails {α : Type} {event : Event}
    (h : Fails files limits preferences path check error) :
    Follows files limits preferences path (check :: checks)
      (do report event; throw error : Checked α) :=
  Or.inl h

theorem Follows.cons {α : Type} {checked : Checked α}
    (hPasses : Passes files limits preferences path check)
    (h : Follows files limits preferences path checks checked) :
    Follows files limits preferences path (check :: checks) checked := by
  unfold Follows at h ⊢
  cases hValue : checked.run.value with
  | error error =>
    rw [hValue] at h
    exact Or.inr ⟨hPasses, h⟩
  | ok a =>
    rw [hValue] at h
    exact List.forall_mem_cons.mpr ⟨hPasses, h⟩

theorem Follows.of_bind_report {α : Type} {event : Event} {checked : Checked α}
    (h : Follows files limits preferences path checks checked) :
    Follows files limits preferences path checks (do report event; checked) := h

/-- What goes on after some checks makes its own after them. -/
theorem Follows.bind {α β : Type} {checked : Checked α} {next : α → Checked β}
    (h : Follows files limits preferences path checks checked) (more : List Check)
    (hNext : ∀ a, checked.run.value = .ok a →
      Follows files limits preferences path more (next a)) :
    Follows files limits preferences path (checks ++ more) (checked >>= next) := by
  unfold Follows at h
  rcases run_bind_cases checked next with ⟨error, hValue, hRun⟩ | ⟨a, hValue, hRun⟩
  · rw [hValue] at h
    rw [Follows, hRun]
    exact FirstFault.append_left h more
  · rw [hValue] at h
    have hRest : Follows files limits preferences path (checks ++ more) (next a) := by
      have hLast := hNext a hValue
      clear hValue hRun
      induction checks with
      | nil => exact hLast
      | cons check rest ih =>
        obtain ⟨hCheck, hChecks⟩ := List.forall_mem_cons.mp h
        exact .cons hCheck (ih hChecks)
    rw [Follows, hRun]
    exact hRest

/-! ## The functions that make the checks -/

theorem value_bind_eq_ok_iff {α β : Type} {checked : Checked α} {next : α → Checked β} {b : β} :
    (checked >>= next).run.value = .ok b ↔
      ∃ a, checked.run.value = .ok a ∧ (next a).run.value = .ok b := by
  rcases run_bind_cases checked next with ⟨error, hValue, hRun⟩ | ⟨a, hValue, hRun⟩
  · simp [hValue, hRun]
  · simp [hValue, hRun]

theorem eq_of_answered {α : Type} {tried : String} {answer : Except SystemFault α} {a : α}
    (h : (answered path tried answer).run.value = .ok a) : answer = .ok a := by
  cases answer with
  | ok other => rw [Except.ok.inj h]
  | error fault => cases h

/-- An answer of the system makes the check that a fault fails. -/
theorem follows_answered {α : Type} {place : Path} {tried : String} {answer : Except SystemFault α}
    (hOk : ∀ a, answer = .ok a → Passes files limits preferences path check)
    (hFault : ∀ fault error, answer = .error fault → FaultReason place.text tried fault error →
      Fails files limits preferences path check error) :
    Follows files limits preferences path [check] (answered place tried answer) := by
  cases answer with
  | ok a => exact .cons (hOk a rfl) .nil
  | error fault =>
    obtain ⟨kind, message⟩ := fault
    refine .of_fails (hFault _ _ rfl ?_)
    cases kind with
    | notFound => exact .notFound
    | permissionDenied => exact .permissionDenied
    | invalidData => exact .invalidData
    | other => exact .other

theorem follows_locate :
    Follows files limits preferences path [.pathGiven, .somethingThere, .fileThere]
      (locate files path) := by
  unfold locate
  split
  · rename_i hPath
    exact .of_fails (.pathGiven hPath)
  · rename_i hPath
    refine .cons (passes_pathGiven_iff.mpr hPath) ?_
    split
    · rename_i fault hEntry
      exact .of_fails (.somethingThere hEntry)
    · rename_i hEntry
      exact .cons (passes_somethingThere_iff.mpr (by simp [hEntry])) (.of_fails (.fileThere hEntry))
    · rename_i file hEntry
      exact .cons (passes_somethingThere_iff.mpr (by simp [hEntry]))
        (.cons (passes_fileThere_iff.mpr (by simp [hEntry])) .nil)

theorem entry_eq_of_locate (h : (locate files path).run.value = .ok file) :
    files.entry path = .regular file := by
  unfold locate at h
  split at h
  · cases h
  · split at h
    · cases h
    · cases h
    · rename_i hEntry
      cases h
      exact hEntry

theorem follows_resolve (hFile : files.entry path = .regular file) :
    Follows files limits preferences path [.resolved] (resolve path file) :=
  follows_answered (fun _ hOk => (passes_resolved_iff hFile).mpr ⟨_, hOk⟩)
    fun _ _ hCanonical hReason => .resolved hFile hCanonical hReason

theorem follows_describe (hFile : files.entry path = .regular file)
    (hCanonical : file.canonical = .ok canonical) :
    Follows files limits preferences path [.described] (describe limits canonical file) := by
  refine (follows_answered (fun _ hOk => ?_) fun _ _ hSize hReason => ?_).bind []
    fun _ _ => .of_bind_report .nil
  · exact (passes_described_iff hFile hCanonical).mpr ⟨_, hOk⟩
  · exact .described hFile hCanonical hSize hReason

theorem of_describe {info : FileInfo} (h : (describe limits canonical file).run.value = .ok info) :
    file.size = .ok info.size ∧ info.path = canonical ∧
      info.extension = canonical.extension?.map Text.toLower := by
  obtain ⟨size, hSize, hInfo⟩ := value_bind_eq_ok_iff.mp h
  obtain rfl := Except.ok.inj hInfo
  exact ⟨eq_of_answered hSize, rfl, rfl⟩

theorem acceptsExtension_iff {extension : Option String} :
    acceptsExtension preferences extension = true ↔
      preferences.extensions = [] ∨ ∃ accepted ∈ preferences.extensions,
        extension = some accepted := by
  cases extension <;> simp [acceptsExtension]

theorem follows_accept {info : FileInfo} (hFile : files.entry path = .regular file)
    (hCanonical : file.canonical = .ok canonical) (hSize : file.size = .ok info.size)
    (hExtension : info.extension = canonical.extension?.map Text.toLower) :
    Follows files limits preferences path [.size, .notEmpty, .extension]
      (accept limits preferences path info) := by
  unfold accept
  split
  · rename_i hLarge
    exact .of_fails (.size hFile hSize hLarge)
  · rename_i hLarge
    refine .cons ((passes_size_iff hFile hSize).mpr (Nat.le_of_not_lt hLarge)) ?_
    split
    · rename_i hEmpty
      exact .of_fails (.notEmpty hFile (hEmpty.1 ▸ hSize) hEmpty.2)
    · rename_i hEmpty
      rw [not_and_or, Bool.not_eq_true] at hEmpty
      refine .cons ((passes_notEmpty_iff hFile hSize).mpr hEmpty) ?_
      split
      · rename_i hOther
        rw [Bool.not_eq_true', ← Bool.not_eq_true, acceptsExtension_iff, not_or,
          not_exists] at hOther
        exact .of_fails (.extension hFile hCanonical (rel_lowered_iff.mpr hExtension) hOther.1
          fun accepted hMem hEq => hOther.2 accepted ⟨hMem, hEq⟩)
      · rename_i hAccepted
        rw [Bool.not_eq_true', Bool.not_eq_false, acceptsExtension_iff, hExtension] at hAccepted
        exact .cons ((passes_extension_iff hFile hCanonical).mpr hAccepted) .nil

theorem eq_of_decode {bytes : ByteArray} {text : String}
    (h : (decode path bytes).run.value = .ok text) : bytes = text.toUTF8 := by
  unfold decode at h
  split at h
  · rename_i decoded hDecoded
    cases h
    exact Text.decodeUtf8?_eq_some_iff.mp hDecoded
  · cases h

theorem follows_decode {bytes : ByteArray} (hFile : files.entry path = .regular file)
    (hContent : file.content = .ok bytes) :
    Follows files limits preferences path [.encoding] (decode path bytes) := by
  unfold decode
  split
  · rename_i text hText
    exact .cons ((passes_encoding_iff hFile hContent).mpr
      ⟨text, Text.decodeUtf8?_eq_some_iff.mp hText⟩) .nil
  · rename_i hNone
    refine .of_fails (.encoding hFile hContent fun text hText => ?_)
    rw [Text.decodeUtf8?_eq_some_iff.mpr hText.symm] at hNone
    cases hNone

theorem follows_readText (hFile : files.entry path = .regular file)
    (hCanonical : file.canonical = .ok canonical) :
    Follows files limits preferences path [.readable, .encoding] (readText path canonical file) := by
  refine (follows_answered (fun _ hOk => ?_) fun _ _ hContent hReason => ?_).bind [.encoding]
    fun _ hBytes => follows_decode hFile (eq_of_answered hBytes)
  · exact (passes_readable_iff hFile hCanonical).mpr ⟨_, hOk⟩
  · exact .readable hFile hCanonical hContent hReason

theorem content_eq_of_readText {text : String}
    (h : (readText path canonical file).run.value = .ok text) : file.content = .ok text.toUTF8 := by
  obtain ⟨bytes, hBytes, hText⟩ := value_bind_eq_ok_iff.mp h
  rw [← eq_of_decode hText]
  exact eq_of_answered hBytes

theorem follows_countLines {text : String} (hFile : files.entry path = .regular file)
    (hContent : file.content = .ok text.toUTF8) :
    Follows files limits preferences path [.lines] (countLines limits path text) := by
  unfold countLines
  dsimp only
  rw [← length_physicalLines]
  split
  · rename_i hLines
    exact .of_fails (.lines hFile hContent hLines)
  · rename_i hLines
    exact .cons ((passes_lines_iff hFile hContent).mpr (Nat.le_of_not_lt hLines)) .nil

theorem eq_of_countLines {text : String} {lines : Nat}
    (h : (countLines limits path text).run.value = .ok lines) :
    lines = (physicalLines text.toList).length := by
  unfold countLines at h
  dsimp only at h
  rw [length_physicalLines]
  split at h
  · cases h
  · exact (Except.ok.inj h).symm

/-! ## Reading -/

section Read

variable {logging : LoggingPreferences} {elapsed : Nat} {source : SourceFile}

theorem follows_load (files : FileSystem) (limits : Limits) (preferences : FilePreferences)
    (path : Path) (elapsed : Nat) :
    Follows files limits preferences path Check.all
      (load files limits preferences path elapsed) := by
  refine .of_bind_report (follows_locate.bind (Check.all.drop 3) fun file hLocate => ?_)
  have hFile := entry_eq_of_locate hLocate
  refine (follows_resolve hFile).bind (Check.all.drop 4) fun canonical hResolve => ?_
  have hCanonical : file.canonical = .ok canonical := eq_of_answered hResolve
  refine (follows_describe hFile hCanonical).bind (Check.all.drop 5) fun info hDescribe => ?_
  obtain ⟨hSize, -, hExtension⟩ := of_describe hDescribe
  refine (follows_accept hFile hCanonical hSize hExtension).bind (Check.all.drop 8) fun _ _ => ?_
  refine (follows_readText hFile hCanonical).bind [.lines] fun text hText => ?_
  exact (follows_countLines hFile (content_eq_of_readText hText)).bind [] fun _ _ => .nil

/-- What is known of a file that was read is what the system says of it. -/
theorem of_load (h : (load files limits preferences path elapsed).run.value = .ok source) :
    files.entry path = .regular {
      canonical := .ok source.info.path
      size := .ok source.info.size
      content := .ok source.text.toUTF8 } ∧
      source.lineCount = (physicalLines source.text.toList).length := by
  obtain ⟨_, -, hLoad⟩ := value_bind_eq_ok_iff.mp h
  obtain ⟨file, hLocate, hLocated⟩ := value_bind_eq_ok_iff.mp hLoad
  obtain ⟨canonical, hResolve, hResolved⟩ := value_bind_eq_ok_iff.mp hLocated
  obtain ⟨info, hDescribe, hDescribed⟩ := value_bind_eq_ok_iff.mp hResolved
  obtain ⟨_, -, hAccepted⟩ := value_bind_eq_ok_iff.mp hDescribed
  obtain ⟨text, hText, hDecoded⟩ := value_bind_eq_ok_iff.mp hAccepted
  obtain ⟨lines, hLines, hCounted⟩ := value_bind_eq_ok_iff.mp hDecoded
  obtain rfl := Except.ok.inj hCounted
  obtain ⟨hSize, hPath, -⟩ := of_describe hDescribe
  refine ⟨?_, eq_of_countLines hLines⟩
  have hCanonical : file.canonical = .ok canonical := eq_of_answered hResolve
  rw [entry_eq_of_locate hLocate, hPath, ← hCanonical, ← hSize, ← content_eq_of_readText hText]

/-- The path, the size and the text of a file are told by what stands there. -/
theorem eq_of_entry_eq_text {canonical other : Path} {size size' : Nat} {text text' : String}
    (h : files.entry path = .regular ⟨.ok canonical, .ok size, .ok text.toUTF8⟩)
    (h' : files.entry path = .regular ⟨.ok other, .ok size', .ok text'.toUTF8⟩) :
    canonical = other ∧ size = size' ∧ text = text' := by
  have hSame := Entry.regular.inj (h.symm.trans h')
  rw [RegularFile.mk.injEq, Except.ok.injEq, Except.ok.injEq, Except.ok.injEq] at hSame
  exact ⟨hSame.1, hSame.2.1, String.toByteArray_inj.mp hSame.2.2⟩

/-- Nothing but what stands at the path decides whether it is accepted. -/
theorem Accepted.congr {others : FileSystem} {text : String}
    (h : Accepted files limits preferences path canonical size text)
    (hEntry : others.entry path = files.entry path) :
    Accepted others limits preferences path canonical size text :=
  { h with entry_eq := hEntry.trans h.entry_eq }

/-- A file is read if all checks pass, and otherwise refused for the first reason. -/
theorem read_cases_checks (files : FileSystem) (limits : Limits) (preferences : FilePreferences)
    (logging : LoggingPreferences) (path : Path) (elapsed : Nat) :
    (∃ source, (read files limits preferences logging path elapsed).value = .ok source ∧
      ∀ check ∈ Check.all, Passes files limits preferences path check) ∨
    ∃ error, (read files limits preferences logging path elapsed).value = .error error ∧
      FirstFault files limits preferences path Check.all error := by
  have hFollows := follows_load files limits preferences path elapsed
  unfold Follows at hFollows
  rw [value_read]
  cases hValue : (load files limits preferences path elapsed).run.value with
  | ok source =>
    rw [hValue] at hFollows
    exact Or.inl ⟨source, rfl, hFollows⟩
  | error error =>
    rw [hValue] at hFollows
    exact Or.inr ⟨error, rfl, hFollows⟩

theorem read_eq_error_iff :
    (read files limits preferences logging path elapsed).value = .error error ↔
      FirstFault files limits preferences path Check.all error := by
  rcases read_cases_checks files limits preferences logging path elapsed with
    ⟨source, hValue, hPasses⟩ | ⟨first, hValue, hFirst⟩
  · rw [hValue]
    constructor
    · intro h
      cases h
    · intro h
      obtain ⟨check, hMem, hNot⟩ := h.not_passes
      exact absurd (hPasses check hMem) hNot
  · rw [hValue, Except.error.injEq]
    exact ⟨fun h => h ▸ hFirst, hFirst.unique⟩

theorem exists_read_eq_ok_iff :
    (∃ source, (read files limits preferences logging path elapsed).value = .ok source) ↔
      ∃ canonical size text, Accepted files limits preferences path canonical size text := by
  rw [← passes_all_iff]
  rcases read_cases_checks files limits preferences logging path elapsed with
    ⟨source, hValue, hPasses⟩ | ⟨first, hValue, hFirst⟩
  · exact iff_of_true ⟨source, hValue⟩ hPasses
  · obtain ⟨check, hMem, hNot⟩ := hFirst.not_passes
    refine iff_of_false ?_ fun hPasses => hNot (hPasses check hMem)
    rintro ⟨source, hSource⟩
    rw [hValue] at hSource
    cases hSource

/-- A file that is read is one that all checks accept, with the text that its bytes encode. -/
theorem accepted_of_read
    (h : (read files limits preferences logging path elapsed).value = .ok source) :
    Accepted files limits preferences path source.info.path source.info.size source.text ∧
      source.lineCount = (physicalLines source.text.toList).length := by
  obtain ⟨canonical, size, text, hAccepted⟩ := exists_read_eq_ok_iff.mp ⟨source, h⟩
  rw [value_read] at h
  obtain ⟨hEntry, hLines⟩ := of_load h
  obtain ⟨rfl, rfl, rfl⟩ := eq_of_entry_eq_text hAccepted.entry_eq hEntry
  exact ⟨hAccepted, hLines⟩

/-- What a file that is read holds is told by the checks alone. -/
theorem exists_read_text_iff {text : String} :
    (∃ source, (read files limits preferences logging path elapsed).value = .ok source ∧
      source.text = text) ↔
      ∃ canonical size, Accepted files limits preferences path canonical size text := by
  constructor
  · rintro ⟨source, hSource, rfl⟩
    exact ⟨_, _, (accepted_of_read hSource).1⟩
  · rintro ⟨canonical, size, hAccepted⟩
    obtain ⟨source, hSource⟩ := exists_read_eq_ok_iff.mpr ⟨canonical, size, text, hAccepted⟩
    obtain ⟨-, -, hText⟩ :=
      eq_of_entry_eq_text hAccepted.entry_eq (accepted_of_read hSource).1.entry_eq
    exact ⟨source, hSource, hText.symm⟩

end Read

/-- A path is read exactly if it names a regular file that all checks accept. The text is the one
that the bytes of the file encode, with the number of its lines. Otherwise the file is refused for
the reason that the first check gives that does not pass; if the system resolves and describes every
file that is there, this is the first of nine. A tokenizer that is handed a path reads it within its
limits and by the preferences of the environment: it gives the tokens of the text if the file is
read, and otherwise tells the path and the reason. -/
theorem read_makes_checks_in_order (files : FileSystem) (logging : LoggingPreferences) (path : Path)
    (elapsed : Nat) :
    (∀ limits preferences,
      let outcome := (read files limits preferences logging path elapsed).value
      ((∃ source, outcome = .ok source) ↔
        ∃ canonical size text, Accepted files limits preferences path canonical size text) ∧
      (∀ source, outcome = .ok source →
        Accepted files limits preferences path source.info.path source.info.size source.text ∧
          source.lineCount = (physicalLines source.text.toList).length) ∧
      (∀ error, outcome = .error error ↔
        FirstFault files limits preferences path Check.all error) ∧
      ((∀ file, files.entry path = .regular file →
          (∃ canonical, file.canonical = .ok canonical) ∧ ∃ size, file.size = .ok size) →
        ∀ error, outcome = .error error ↔
          FirstFault files limits preferences path Check.listed error)) ∧
    ∀ (environment : Environment) (t : Tokenizer),
      let reading := read files t.limits (.ofEnvironment environment) logging path elapsed
      let tokenized := (t.tokenizeFile files environment logging path elapsed).value
      ((∃ stream, tokenized = .ok stream) ↔ ∃ source, reading.value = .ok source) ∧
      (∀ source, reading.value = .ok source →
        tokenized = .ok (.ofRecords (t.tokenize source.text).records)) ∧
      ∀ error, reading.value = .error error →
        tokenized = .error (.sourceUnavailable path.text error) := by
  refine ⟨fun limits preferences => ⟨exists_read_eq_ok_iff, fun _ => accepted_of_read,
    fun _ => read_eq_error_iff, fun hAnswers error => ?_⟩, fun environment t => ?_⟩
  · exact read_eq_error_iff.trans (firstFault_listed_iff hAnswers)
  · intro reading tokenized
    have hOk : ∀ source, reading.value = .ok source →
        tokenized = .ok (.ofRecords (t.tokenize source.text).records) := by
      intro source hSource
      simp only [tokenized, tokenizeFile_of_ok hSource]
      rfl
    have hError : ∀ error, reading.value = .error error →
        tokenized = .error (.sourceUnavailable path.text error) := by
      intro error hRefused
      simp only [tokenized, tokenizeFile_of_error hRefused]
    refine ⟨?_, hOk, hError⟩
    cases hValue : reading.value with
    | ok source => exact iff_of_true ⟨_, hOk source hValue⟩ ⟨source, rfl⟩
    | error error =>
      rw [hError error hValue]
      simp

/-- A file whose bytes the system does not give is refused for that, by its path without links, once
its size and its extension in lower case are accepted. A tokenizer tells the path that it was
handed, and it takes the accepted extensions from the environment. -/
theorem unreadable_file_refused :
    let file : RegularFile :=
      { canonical := .ok ⟨"/a.TXT"⟩, size := .ok 7, content := .error .permissionDenied }
    let files : FileSystem := ⟨fun _ => .regular file⟩
    let preferences : FilePreferences := { extensions := ["md", "txt"] }
    let tokenized extensions :=
      ((Tokenizer.ofRuleSet .cLike {}).tokenizeFile files
        ⟨[("LINELEX_ALLOWED_EXTENSIONS", extensions)]⟩ {} ⟨"b"⟩ 0).value
    FirstFault files .current preferences ⟨"b"⟩ Check.listed (.permissionDenied "/a.TXT") ∧
      (read files .current preferences {} ⟨"b"⟩ 0).value = .error (.permissionDenied "/a.TXT") ∧
      tokenized "md, .Txt" = .error (.sourceUnavailable "b" (.permissionDenied "/a.TXT")) ∧
      tokenized "md" =
        .error (.sourceUnavailable "b" (.extensionRefused (some "txt") ["md"])) := by
  intro file files preferences tokenized
  have hEntry : files.entry ⟨"b"⟩ = .regular file := rfl
  have hRefused : FirstFault files .current preferences ⟨"b"⟩ Check.listed
      (.permissionDenied "/a.TXT") := by
    refine Or.inr ⟨passes_pathGiven_iff.mpr (by decide), Or.inr
      ⟨passes_somethingThere_iff.mpr (by simp [hEntry]), Or.inr
      ⟨passes_fileThere_iff.mpr (by simp [hEntry]), Or.inr
      ⟨(passes_size_iff hEntry rfl).mpr (by decide), Or.inr
      ⟨(passes_notEmpty_iff hEntry rfl).mpr (Or.inr rfl), Or.inr
      ⟨(passes_extension_iff hEntry rfl).mpr (Or.inr ⟨"txt", by decide, rfl⟩), Or.inl ?_⟩⟩⟩⟩⟩⟩
    exact .readable hEntry rfl rfl .permissionDenied
  obtain ⟨hRead, hTokenized⟩ := read_makes_checks_in_order files {} ⟨"b"⟩ 0
  obtain ⟨-, -, -, hListed⟩ := hRead .current preferences
  refine ⟨hRefused, (hListed (fun _ hFound => ?_) _).mpr hRefused, (hTokenized _ _).2.2 _ rfl,
    (hTokenized _ _).2.2 _ rfl⟩
  obtain rfl := Entry.regular.inj hFound
  exact ⟨⟨_, rfl⟩, _, rfl⟩

/-- The size comes before the extension and the content. -/
example :
    let file : RegularFile :=
      { canonical := .ok ⟨"/a.bin"⟩, size := .ok 200000000, content := .error .permissionDenied }
    let outcome := read ⟨fun _ => .regular file⟩ .current { extensions := ["txt"] } {} ⟨"a"⟩ 0
    outcome.value = .error (.tooLarge 200000000 Limits.current.maxFileSize) := by
  rfl

end Lineation.Source
