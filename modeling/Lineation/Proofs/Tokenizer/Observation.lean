import Lineation.Proofs.Tokenizer.Simulation
import Lineation.Tokenizer.Run

/-!
# What is observed of a text

The naming of tokens and the preferences decide what is observed of a text and not how it is cut.
Two scans that differ in nothing else go through states that agree on everything but identifiers,
the longest token, the use of rules and warnings (`Scan.Agrees`).

A rule is looked up by the text of a token, never by its identifier. A naming that gives all texts
one identifier therefore opens the same regions as any other, and the closing token of a region is
named like all other tokens.

* `simulation_agrees`: whatever two such scans do keeps their states in agreement.
* `naming_eq_of_mem_records`: every token has the naming of the tokenizer.
-/

namespace Lineation

/-- The counts that no preference can change. -/
structure Metrics.SameCounts (m m' : Metrics) : Prop where
  totalTokens : m'.totalTokens = m.totalTokens
  totalLines : m'.totalLines = m.totalLines
  droppedLines : m'.droppedLines = m.droppedLines
  capturedRegions : m'.capturedRegions = m.capturedRegions
  unterminatedRegions : m'.unterminatedRegions = m.unterminatedRegions

/-- Number, characters and the texts of the tokens. -/
def LineRecord.cut (record : LineRecord) : Nat × String × List String :=
  (record.number, record.source, record.texts)

/-- Two states that differ at most in what was observed. -/
structure Scan.Agrees (s s' : Scan) : Prop where
  mode_eq : s'.mode = s.mode
  source_eq : s'.source = s.source
  tokens_eq : s'.tokens.map Token.text = s.tokens.map Token.text
  line_eq : s'.line = s.line
  records_eq : s'.records.map LineRecord.cut = s.records.map LineRecord.cut
  metrics : Metrics.SameCounts s.metrics s'.metrics

namespace Metrics.SameCounts

variable {m m' : Metrics}

theorem refl (m : Metrics) : SameCounts m m := ⟨rfl, rfl, rfl, rfl, rfl⟩

theorem addToken (h : SameCounts m m') (preferences preferences' : LexicalPreferences)
    (text : String) :
    SameCounts (m.addToken preferences text) (m'.addToken preferences' text) :=
  ⟨congrArg (· + 1) h.totalTokens, h.totalLines, h.droppedLines, h.capturedRegions,
    h.unterminatedRegions⟩

theorem addOpening_self (preferences : LexicalPreferences) (limits : Limits) (text : String)
    (m : Metrics) : SameCounts (m.addOpening preferences limits text) m := by
  unfold addOpening
  split
  · exact ⟨rfl, rfl, rfl, rfl, rfl⟩
  · exact refl m

theorem trans {m'' : Metrics} (h : SameCounts m m') (h' : SameCounts m' m'') : SameCounts m m'' :=
  ⟨h'.totalTokens.trans h.totalTokens, h'.totalLines.trans h.totalLines,
    h'.droppedLines.trans h.droppedLines, h'.capturedRegions.trans h.capturedRegions,
    h'.unterminatedRegions.trans h.unterminatedRegions⟩

theorem symm (h : SameCounts m m') : SameCounts m' m :=
  ⟨h.totalTokens.symm, h.totalLines.symm, h.droppedLines.symm, h.capturedRegions.symm,
    h.unterminatedRegions.symm⟩

/-- Either side may keep count of rules or not. -/
theorem addOpening (h : SameCounts m m') (preferences preferences' : LexicalPreferences)
    (limits limits' : Limits) (text : String) :
    SameCounts (m.addOpening preferences limits text) (m'.addOpening preferences' limits' text) :=
  ((addOpening_self preferences limits text m).trans h).trans
    (addOpening_self preferences' limits' text m').symm

theorem addLine (h : SameCounts m m') : SameCounts m.addLine m'.addLine :=
  ⟨h.totalTokens, congrArg (· + 1) h.totalLines, h.droppedLines, h.capturedRegions,
    h.unterminatedRegions⟩

theorem addDropped (h : SameCounts m m') : SameCounts m.addDropped m'.addDropped :=
  ⟨h.totalTokens, congrArg (· + 1) h.totalLines, congrArg (· + 1) h.droppedLines,
    h.capturedRegions, h.unterminatedRegions⟩

end Metrics.SameCounts

namespace Scan.Agrees

variable {s s' : Scan}

theorem refl (s : Scan) : Agrees s s := ⟨rfl, rfl, rfl, rfl, rfl, .refl _⟩

theorem tokens_eq_nil_iff (h : Agrees s s') : s'.tokens = [] ↔ s.tokens = [] := by
  rw [← List.map_eq_nil_iff (f := Token.text), h.tokens_eq, List.map_eq_nil_iff]

theorem closeLine (h : Agrees s s') : Agrees s.closeLine s'.closeLine := by
  have hLine : s'.line + 1 = s.line + 1 := congrArg (· + 1) h.line_eq
  by_cases hTokens : s.tokens = []
  · rw [closeLine_of_tokens_eq_nil hTokens,
      closeLine_of_tokens_eq_nil (h.tokens_eq_nil_iff.mpr hTokens)]
    exact ⟨h.mode_eq, rfl, rfl, hLine, h.records_eq, h.metrics.addDropped⟩
  · have hTokens' : s'.tokens ≠ [] := fun hNil => hTokens (h.tokens_eq_nil_iff.mp hNil)
    rw [closeLine_of_tokens_ne_nil hTokens, closeLine_of_tokens_ne_nil hTokens']
    refine ⟨h.mode_eq, rfl, rfl, hLine, ?_, h.metrics.addLine⟩
    simp [LineRecord.cut, LineRecord.texts, h.line_eq, h.source_eq, h.records_eq, h.tokens_eq]

end Scan.Agrees

theorem simulation_agrees {t t' : Tokenizer} (hCut : SameCut t t') :
    Simulation t t' Scan.Agrees where
  toSameCut := hCut
  mode_eq h := h.mode_eq
  isEmpty_eq h := by rw [h.source_eq]
  withMode h mode := ⟨rfl, h.source_eq, h.tokens_eq, h.line_eq, h.records_eq, h.metrics⟩
  push h c := ⟨h.mode_eq, congrArg (c :: ·) h.source_eq, h.tokens_eq, h.line_eq, h.records_eq,
    h.metrics⟩
  emit h text := ⟨h.mode_eq, h.source_eq, congrArg (text :: ·) h.tokens_eq, h.line_eq,
    h.records_eq, h.metrics.addToken t.preferences t'.preferences text⟩
  opening h text := ⟨h.mode_eq, h.source_eq, h.tokens_eq, h.line_eq, h.records_eq,
    h.metrics.addOpening t.preferences t'.preferences t.limits t'.limits text⟩
  captured h := ⟨h.mode_eq, h.source_eq, h.tokens_eq, h.line_eq, h.records_eq,
    ⟨h.metrics.totalTokens, h.metrics.totalLines, h.metrics.droppedLines,
      congrArg (· + 1) h.metrics.capturedRegions, h.metrics.unterminatedRegions⟩⟩
  unterminated h := ⟨h.mode_eq, h.source_eq, h.tokens_eq, h.line_eq, h.records_eq,
    ⟨h.metrics.totalTokens, h.metrics.totalLines, h.metrics.droppedLines,
      h.metrics.capturedRegions, congrArg (· + 1) h.metrics.unterminatedRegions⟩⟩
  warnings h _ _ := ⟨h.mode_eq, h.source_eq, h.tokens_eq, h.line_eq, h.records_eq, h.metrics⟩
  closeLine h := h.closeLine

namespace Tokenizer

theorem agrees_scan {t t' : Tokenizer} (hCut : SameCut t t') (text : List Char) :
    Scan.Agrees (t.scan text) (t'.scan text) := by
  have hSim := simulation_agrees hCut
  exact hSim.finish (hSim.foldl (ReadsWhole.start t) (Scan.Agrees.refl _) text)

theorem naming_eq_of_mem_records (t : Tokenizer) (text : String) {record : LineRecord}
    (hRecord : record ∈ (t.tokenize text).records) {token : Token}
    (hToken : token ∈ record.tokens) : token.naming = t.naming := by
  obtain ⟨lines, tail, -, hRecords, -⟩ := exists_layout_tokenize t text
  rw [hRecords] at hRecord
  obtain ⟨number, line, -, rfl⟩ := mem_records hRecord
  have hMem : token ∈ (Stretch.texts line).map t.token := by simpa [record] using hToken
  obtain ⟨found, -, rfl⟩ := List.mem_map.mp hMem
  rfl

/-- Neither the naming of tokens nor the preferences change how a text is cut: the records agree in
their numbers, characters and texts, and so do the counts. Each run names its tokens by its own
naming, whatever identifiers that gives. -/
theorem tokenize_observed (t : Tokenizer) (naming : Naming) (preferences : LexicalPreferences)
    (text : String) :
    let run := t.tokenize text
    let other := ((t.setNaming naming).setPreferences preferences).tokenize text
    other.records.map LineRecord.cut = run.records.map LineRecord.cut ∧
      Metrics.SameCounts run.metrics other.metrics ∧
      (∀ record ∈ run.records, ∀ token ∈ record.tokens, token.id = t.naming token.text) ∧
      ∀ record ∈ other.records, ∀ token ∈ record.tokens, token.id = naming token.text := by
  intro run other
  -- Classes and rules are the same, so the two scans do the same things.
  have hCut : SameCut t ((t.setNaming naming).setPreferences preferences) :=
    ⟨fun _ => rfl, fun _ _ => rfl, fun _ _ => rfl⟩
  have hAgrees := agrees_scan hCut text.toList
  refine ⟨?_, hAgrees.metrics, ?_, ?_⟩
  · simp only [run, other, tokenize, List.map_reverse, hAgrees.records_eq]
  · intro record hRecord token hToken
    rw [Token.id, naming_eq_of_mem_records t text hRecord hToken]
  · intro record hRecord token hToken
    rw [Token.id, naming_eq_of_mem_records _ text hRecord hToken]
    rfl

/-- All texts have one identifier, and the region is found as before. -/
example : (((ofRuleSet .cLike {}).setNaming (.constant 0)).tokenize "a \"b c\"").records.map
    LineRecord.texts = [["a", "\"", "b c", "\""]] := by
  cbv

end Tokenizer

end Lineation
