import Lineation.Proofs.Toml.Document
import Lineation.Proofs.Toml.Reader
import Lineation.RuleSet.Toml

/-!
# Rule sets written to a file and read back

The file of a rule set assigns the three texts and then has an element of an array of tables for
each rule, since what follows a header would be taken for a part of its table. Only if there are no
rules does the array stand in an assignment, so that its name is given once in any case. The file is
read as these statements, they build one table, and the rule set is what the table holds.

Main statements:
* `written_toToml`: the file of a rule set, as statements;
* `foldlM_add_statements`: the table that the statements build;
* `ofToml_toToml`: the file of a rule set holds the rule set.
-/

namespace Lineation.RuleSet

open Toml (Builder Entries Item Line Statement Value Written)

/-! ## The statements of a file -/

/-- The statements of a rule: a header and its two texts. -/
def ruleStatements (rule : RegionRule) : List Statement :=
  [.elementHeader ⟨[], "combining_rules"⟩, .assign ⟨[], "start"⟩ (.string rule.opening),
    .assign ⟨[], "end"⟩ (.string rule.closing)]

/-- The statements of the rules. An array of tables without elements has no header. -/
def regionStatements (regions : List RegionRule) : List Statement :=
  if regions.isEmpty then [.assign ⟨[], "combining_rules"⟩ (.array [])]
  else regions.flatMap ruleStatements

/-- The statements of the three texts. -/
def plainStatements (rules : RuleSet) : List Statement :=
  [.assign ⟨[], "special_alphabets"⟩ (.array (rules.groups.map .string)),
    .assign ⟨[], "individual_chars"⟩ (.string rules.individual),
    .assign ⟨[], "separators"⟩ (.string rules.separators)]

/-- The statements of the file of a rule set. -/
def statements (rules : RuleSet) : List Statement :=
  rules.plainStatements ++ regionStatements rules.regions

/-- A rule as an empty line, a header and two assignments. -/
theorem ruleToml_append (rule : RegionRule) (text : String) :
    ruleToml rule ++ text =
      "\n" ++ ("[[" ++ "combining_rules" ++ "]]" ++ "\n" ++
        ("start" ++ " = " ++ Toml.writeQuoted rule.opening ++ "\n" ++
          ("end" ++ " = " ++ Toml.writeQuoted rule.closing ++ "\n" ++ text))) := by
  have hHeader : "\n[[combining_rules]]\nstart = " =
    "\n" ++ ("[[" ++ "combining_rules" ++ "]]" ++ "\n" ++ ("start" ++ " = ")) := rfl
  have hClosing : "\nend = " = "\n" ++ ("end" ++ " = ") := rfl
  unfold ruleToml
  rw [hHeader, hClosing]
  simp only [String.append_assoc]

theorem written_rule (rule : RegionRule) {rest : List Statement} {text : String}
    (h : Written rest text) : Written (ruleStatements rule ++ rest) (ruleToml rule ++ text) := by
  rw [ruleToml_append]
  refine .empty (.line (.elementHeader (by decide)) (.line ?_ (.line ?_ h)))
  · exact .assign (by decide) (.text rule.opening)
  · exact .assign (by decide) (.text rule.closing)

theorem written_regions (regions : List RegionRule) :
    Written (regions.flatMap ruleStatements) (String.join (regions.map ruleToml)) := by
  induction regions with
  | nil => exact .nil
  | cons rule regions ih =>
    rw [List.flatMap_cons, List.map_cons, String.join_cons]
    exact written_rule rule ih

theorem written_regionStatements (regions : List RegionRule) :
    Written (regionStatements regions)
      (if regions.isEmpty then "combining_rules = []\n"
        else String.join (regions.map ruleToml)) := by
  unfold regionStatements
  split_ifs
  · have hLine : Line (.assign ⟨[], "combining_rules"⟩ (.array [])) "combining_rules = []" :=
      .assign (by decide) (.texts [])
    exact .line hLine .nil
  · exact written_regions regions

theorem toToml_eq (rules : RuleSet) :
    rules.toToml =
      "special_alphabets" ++ " = " ++
          ("[" ++ ", ".intercalate (rules.groups.map Toml.writeQuoted) ++ "]") ++ "\n" ++
        ("individual_chars" ++ " = " ++ Toml.writeQuoted rules.individual ++ "\n" ++
          ("separators" ++ " = " ++ Toml.writeQuoted rules.separators ++ "\n" ++
            if rules.regions.isEmpty then "combining_rules = []\n"
            else String.join (rules.regions.map ruleToml))) := by
  have hGroups : "special_alphabets = [" = "special_alphabets" ++ " = " ++ "[" := rfl
  have hIndividual : "individual_chars = " = "individual_chars" ++ " = " := rfl
  have hSeparators : "separators = " = "separators" ++ " = " := rfl
  have hEnd : "]\n" = "]" ++ "\n" := rfl
  unfold toToml
  rw [hGroups, hIndividual, hSeparators, hEnd]
  simp only [String.append_assoc]

theorem written_toToml (rules : RuleSet) : Written rules.statements rules.toToml := by
  rw [toToml_eq]
  refine .line ?_ (.line ?_ (.line ?_ (written_regionStatements rules.regions)))
  · exact .assign (by decide) (.texts rules.groups)
  · exact .assign (by decide) (.text rules.individual)
  · exact .assign (by decide) (.text rules.separators)

/-! ## The table that they build -/

/-- The entries of a rule. -/
def ruleEntries (rule : RegionRule) : Entries :=
  [("start", .value (.string rule.opening)), ("end", .value (.string rule.closing))]

/-- The entries of a rule set without its rules. -/
def plainEntries (rules : RuleSet) : Entries :=
  [("special_alphabets", .value (.array (rules.groups.map .string))),
    ("individual_chars", .value (.string rules.individual)),
    ("separators", .value (.string rules.separators))]

/-- The table of a rule set. -/
def toValue (rules : RuleSet) : Value :=
  .table (Toml.entriesToValues rules.plainEntries ++
    [("combining_rules", .array (rules.regions.map fun rule =>
      .table (Toml.entriesToValues (ruleEntries rule))))])

section Building

variable {entries : Entries}

theorem foldlM_add_ruleStatements (h : entries.lookup "combining_rules" = none) (rule : RegionRule)
    (elements : List Entries) (home : Entries.Home) :
    (ruleStatements rule).foldlM Builder.add
        ⟨entries.withElements "combining_rules" elements, home⟩ =
      .ok ⟨entries.withElements "combining_rules" (ruleEntries rule :: elements),
        some ["combining_rules"]⟩ := by
  have hHeader := Builder.add_elementHeader h elements home
  have hOpening := Builder.add_assign_element h [] elements "start" rfl (.string rule.opening)
  have hClosing := Builder.add_assign_element h [("start", .value (.string rule.opening))] elements
    "end" rfl (.string rule.closing)
  simp only [ruleStatements, List.foldlM_cons, List.foldlM_nil, bind, Except.bind, hHeader,
    hOpening, hClosing, List.nil_append]
  rfl

theorem foldlM_add_regions (h : entries.lookup "combining_rules" = none) (regions : List RegionRule)
    (elements : List Entries) (home : Entries.Home) :
    ∃ last, (regions.flatMap ruleStatements).foldlM Builder.add
        ⟨entries.withElements "combining_rules" elements, home⟩ =
      .ok ⟨entries.withElements "combining_rules" ((regions.map ruleEntries).reverse ++ elements),
        last⟩ := by
  induction regions generalizing elements home with
  | nil => exact ⟨home, rfl⟩
  | cons rule regions ih =>
    obtain ⟨last, hLast⟩ := ih (ruleEntries rule :: elements) (some ["combining_rules"])
    refine ⟨last, ?_⟩
    rw [List.flatMap_cons, List.foldlM_append, foldlM_add_ruleStatements h, List.map_cons,
      List.reverse_cons, List.append_assoc]
    exact hLast

end Building

theorem foldlM_add_regionStatements (rules : RuleSet) :
    ∃ built, (regionStatements rules.regions).foldlM Builder.add ⟨rules.plainEntries, some []⟩ =
      .ok built ∧ built.toValue = rules.toValue := by
  have hNew : rules.plainEntries.lookup "combining_rules" = none := rfl
  by_cases hNone : rules.regions = []
  · have hAdd := Builder.add_assign hNew (.array [])
    refine ⟨⟨rules.plainEntries ++ [("combining_rules", .value (.array []))], some []⟩, ?_, ?_⟩
    · rw [regionStatements, hNone, List.isEmpty_nil, if_pos rfl, List.foldlM_cons, hAdd]
      rfl
    · rw [Builder.toValue_concat, toValue, hNone]
      rfl
  · obtain ⟨last, hLast⟩ := foldlM_add_regions hNew rules.regions [] (some [])
    rw [List.append_nil] at hLast
    have hStatements : regionStatements rules.regions = rules.regions.flatMap ruleStatements :=
      if_neg (by simpa using hNone)
    refine ⟨_, hStatements ▸ hLast, ?_⟩
    rw [Builder.toValue_withElements _ _ (by simpa using hNone), List.map_reverse,
      List.reverse_reverse, List.map_map]
    rfl

theorem foldlM_add_plainStatements (rules : RuleSet) :
    rules.plainStatements.foldlM Builder.add {} = .ok ⟨rules.plainEntries, some []⟩ := by
  rfl

theorem foldlM_add_statements (rules : RuleSet) :
    ∃ built, rules.statements.foldlM Builder.add {} = .ok built ∧ built.toValue = rules.toValue := by
  obtain ⟨built, hBuilt, hValue⟩ := rules.foldlM_add_regionStatements
  refine ⟨built, ?_, hValue⟩
  rw [statements, List.foldlM_append, foldlM_add_plainStatements]
  exact hBuilt

/-! ## The rule set that it holds -/

theorem mapM_map_of_read_write {α β ε : Type} {write : α → β} {read : β → Except ε α}
    (h : ∀ a, read (write a) = .ok a) (items : List α) :
    (items.map write).mapM read = .ok items := by
  have hComp : read ∘ write = fun a => pure (id a) := funext h
  rw [List.mapM_map, hComp, List.mapM_pure, List.map_id]
  rfl

theorem ruleOfValue_entries (rule : RegionRule) :
    ruleOfValue (.table (Toml.entriesToValues (ruleEntries rule))) = .ok rule := by
  rfl

theorem ofValue_toValue (rules : RuleSet) : ofValue rules.toValue = .ok rules := by
  have hText : ∀ text, (Value.string text).asString = .ok text := fun _ => rfl
  have hGroups := mapM_map_of_read_write hText rules.groups
  have hRegions := mapM_map_of_read_write ruleOfValue_entries rules.regions
  simp [toValue, plainEntries, Toml.entriesToValues, Item.toValue, ofValue, put, Value.asArray,
    Value.asString, hGroups, hRegions, bind, Except.bind, pure, Except.pure]

/-- The file of a rule set holds the rule set, whatever its texts are. -/
theorem ofToml_toToml (rules : RuleSet) : ofToml rules.toToml = .ok rules := by
  obtain ⟨built, hBuilt, hValue⟩ := rules.foldlM_add_statements
  rw [ofToml, rules.written_toToml.parse hBuilt, hValue]
  simp only [ofValue_toValue]
  rfl

end Lineation.RuleSet
