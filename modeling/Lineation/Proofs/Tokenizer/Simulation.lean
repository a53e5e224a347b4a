import Lineation.Proofs.Tokenizer.Layout

/-!
# Scans side by side

Two tokenizers that agree on classes and rules do the same things in the same order. A relation
between their states that is kept by each of these things alone is then kept by whole scans.

* `SameCut`: two tokenizers agree on all that decides how a text is cut.
* `Simulation`: a relation that the single things keep. It cannot tell warnings apart.
* `Simulation.foldl`, `Simulation.finish`: reading characters and the end of the text keep it.
-/

namespace Lineation

/-- Two tokenizers that cut every text in the same way. Groups are asked for only where a word goes
on, and rules only for the text of a token outside a region. -/
structure SameCut (t t' : Tokenizer) : Prop where
  classify_eq : ∀ c, t'.classify c = t.classify c
  group?_eq : ∀ c, ¬ t.IsAlone c → t'.group? c = t.group? c
  rule?_eq : ∀ text, text ≠ "" → t'.rule? text = t.rule? text

theorem SameCut.refl (t : Tokenizer) : SameCut t t := ⟨fun _ => rfl, fun _ _ => rfl, fun _ _ => rfl⟩

/-- A relation between the states of two tokenizers that all they do keeps. -/
structure Simulation (t t' : Tokenizer) (R : Scan → Scan → Prop) : Prop extends SameCut t t' where
  mode_eq : ∀ {s s'}, R s s' → s'.mode = s.mode
  isEmpty_eq : ∀ {s s'}, R s s' → s'.source.isEmpty = s.source.isEmpty
  withMode : ∀ {s s'}, R s s' → ∀ mode, R { s with mode } { s' with mode }
  push : ∀ {s s'}, R s s' → ∀ c, R (s.push c) (s'.push c)
  emit : ∀ {s s'}, R s s' → ∀ text, R (t.emit text s) (t'.emit text s')
  opening : ∀ {s s'}, R s s' → ∀ text,
    R { s with metrics := s.metrics.addOpening t.preferences t.limits text }
      { s' with metrics := s'.metrics.addOpening t'.preferences t'.limits text }
  captured : ∀ {s s'}, R s s' →
    R { s with metrics := { s.metrics with
          capturedRegions := s.metrics.capturedRegions + 1 } }
      { s' with metrics := { s'.metrics with
          capturedRegions := s'.metrics.capturedRegions + 1 } }
  unterminated : ∀ {s s'}, R s s' →
    R { s with metrics := { s.metrics with
          unterminatedRegions := s.metrics.unterminatedRegions + 1 } }
      { s' with metrics := { s'.metrics with
          unterminatedRegions := s'.metrics.unterminatedRegions + 1 } }
  warnings : ∀ {s s'}, R s s' → ∀ before after,
    R { s with warnings := before } { s' with warnings := after }
  closeLine : ∀ {s s'}, R s s' → R s.closeLine s'.closeLine

namespace Simulation

variable {t t' : Tokenizer} {R : Scan → Scan → Prop} {s s' : Scan}

/-! ## Regions -/

theorem emitContent (sim : Simulation t t' R) (h : R s s') (chars : List Char) :
    R (t.emitContent chars s) (t'.emitContent chars s') := by
  unfold Tokenizer.emitContent
  split
  · exact h
  · exact sim.emit h _

/-- Either side may warn or not, whatever the warning says. -/
theorem ite_warn (sim : Simulation t t' R) (h : R s s') (p q : Bool) (code : Diagnostics.Code)
    (message : String) (context context' : List (String × String)) :
    R (if p then s.warn code message context else s)
      (if q then s'.warn code message context' else s') := by
  cases p <;> cases q <;> exact sim.warnings h _ _

theorem closeRegion (sim : Simulation t t' R) (h : R s s') (rule : RegionRule)
    (content : List Char) : R (t.closeRegion rule content s) (t'.closeRegion rule content s') := by
  unfold Tokenizer.closeRegion
  dsimp only
  apply sim.captured
  apply sim.emit
  apply sim.emitContent
  exact sim.ite_warn (sim.withMode h _) _ _ _ _ _ _

theorem abandonRegion (sim : Simulation t t' R) (h : R s s') (rule : RegionRule)
    (content : List Char) :
    R (t.abandonRegion rule content s) (t'.abandonRegion rule content s') := by
  unfold Tokenizer.abandonRegion
  dsimp only
  apply sim.ite_warn
  apply sim.emitContent
  exact sim.unterminated (sim.withMode h _)

theorem collect (sim : Simulation t t' R) (h : R s s') (rule : RegionRule) (content : List Char) :
    R (t.collect rule content s) (t'.collect rule content s') := by
  unfold Tokenizer.collect
  by_cases hClosed : rule.closedBy content
  · rw [if_pos hClosed, if_pos hClosed]
    exact sim.closeRegion h rule content
  · rw [if_neg hClosed, if_neg hClosed]
    exact sim.withMode h _

theorem openRegion (sim : Simulation t t' R) (h : R s s') (rule : RegionRule) (seed : List Char) :
    R (t.openRegion rule seed s) (t'.openRegion rule seed s') :=
  sim.collect (sim.opening h _) rule seed

/-! ## Characters -/

theorem breakWord (sim : Simulation t t' R) (h : R s s') (buffer : List Char) (c : Char)
    {next next' : Scan → Scan} (hNext : ∀ {s s'}, R s s' → R (next s) (next' s')) :
    R (t.breakWord buffer c next s) (t'.breakWord buffer c next' s') := by
  unfold Tokenizer.breakWord
  by_cases hEmpty : buffer.isEmpty
  · rw [if_pos hEmpty, if_pos hEmpty]
    exact hNext h
  · rw [if_neg hEmpty, if_neg hEmpty]
    have hText : String.ofList buffer.reverse ≠ "" := by simpa using hEmpty
    have hEmit := sim.emit (sim.withMode h (.word [])) (String.ofList buffer.reverse)
    dsimp only
    rw [sim.rule?_eq _ hText]
    split
    · exact sim.openRegion hEmit _ _
    · exact hNext hEmit

theorem single (sim : Simulation t t' R) (h : R s s') (c : Char) :
    R (t.single c s) (t'.single c s') := by
  have hText : String.singleton c ≠ "" := by simp
  unfold Tokenizer.single
  dsimp only
  rw [sim.rule?_eq _ hText]
  split
  · exact sim.openRegion (sim.emit h _) _ _
  · exact sim.emit h _

/-- Whether a word goes on is asked of its last character, which is not alone. -/
theorem startsWord_eq (sim : Simulation t t' R) {buffer : List Char}
    (hBuffer : buffer = [] ∨ t.IsWord buffer.reverse) (group : Nat) :
    t'.startsWord group buffer = t.startsWord group buffer := by
  cases buffer with
  | nil => rfl
  | cons last buffer =>
    have hWord := hBuffer.resolve_left (by simp)
    have hLast : ¬ t.IsAlone last := hWord.not_isAlone last (by simp)
    simp only [Tokenizer.startsWord, sim.group?_eq last hLast]

theorem read (sim : Simulation t t' R) (h : R s s') (hValid : s.mode.Valid t) (c : Char) :
    R (t.read s c) (t'.read s' c) := by
  unfold Tokenizer.read
  rw [sim.mode_eq h]
  cases hMode : s.mode with
  | word buffer =>
    rw [hMode] at hValid
    dsimp only
    unfold Tokenizer.readOutside
    rw [sim.classify_eq]
    have hPush := sim.push h c
    split
    · exact sim.breakWord hPush buffer c fun h => sim.single h c
    · rename_i group hClass
      rw [sim.startsWord_eq hValid]
      by_cases hStarts : t.startsWord group buffer
      · rw [if_pos hStarts, if_pos hStarts]
        exact sim.breakWord hPush buffer c fun h => sim.withMode h _
      · rw [if_neg hStarts, if_neg hStarts]
        exact sim.withMode hPush _
    · exact sim.breakWord hPush buffer c fun h => h
    · exact sim.withMode hPush _
  | region rule content => exact sim.collect (sim.push h c) rule _

theorem step (sim : Simulation t t' R) (h : R s s') (hValid : s.mode.Valid t) (c : Char) :
    R (t.step s c) (t'.step s' c) := by
  have hRead := sim.read h hValid c
  unfold Tokenizer.step
  dsimp only
  rw [sim.mode_eq hRead]
  split
  · split
    · exact sim.closeLine hRead
    · exact hRead
  · exact hRead

/-! ## Texts -/

theorem foldl (sim : Simulation t t' R) {text : List Char} {lines : List (List Stretch)}
    {current : List Stretch} (hReads : ReadsWhole t text s lines current) (h : R s s')
    (more : List Char) : R (more.foldl t.step s) (more.foldl t'.step s') := by
  induction more generalizing text s s' lines current with
  | nil => exact h
  | cons c more ih =>
    obtain ⟨lines', current', hStep⟩ := hReads.step c
    exact ih hStep (sim.step h hReads.valid_mode c)

theorem settle (sim : Simulation t t' R) (h : R s s') : R (t.settle s) (t'.settle s') := by
  unfold Tokenizer.settle
  rw [sim.mode_eq h]
  split
  · exact h
  · rename_i buffer hNonempty hMode
    have hText : String.ofList buffer.reverse ≠ "" := by simpa using hNonempty
    have hEmit := sim.emit (sim.withMode h (.word [])) (String.ofList buffer.reverse)
    dsimp only
    rw [sim.rule?_eq _ hText]
    split
    · rename_i rule hRule
      exact sim.abandonRegion (sim.withMode (sim.opening hEmit rule.opening) (.region rule [])) _ _
    · exact hEmit
  · exact sim.abandonRegion h _ _

theorem finish (sim : Simulation t t' R) (h : R s s') : R (t.finish s) (t'.finish s') := by
  have hSettle := sim.settle h
  rw [t.finish_eq, t'.finish_eq, sim.isEmpty_eq hSettle]
  split
  · exact hSettle
  · exact sim.closeLine hSettle

end Simulation

end Lineation
