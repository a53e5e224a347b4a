import Lineation.Proofs.Diagnostics.Collector

/-!
# The order of entries

A collector keeps its entries in the order of their paths, each path once (`Collector.Ordered`). A
change of the events of a path looks for its entry only as far as the order says it can be, so it is
the order that keeps a path from getting a second entry.

* `Collector.Ordered.located`: where a path has its entry, or would have it, and what a change of its
  events does there.
* `Collector.Ordered.updateIn`: a change keeps the order.
* `Collector.Ordered.mem_names_updateIn`, `Collector.Ordered.of_mem_updateIn`: what the entries are
  after a change.
-/

namespace Lineation.Diagnostics.Collector

variable {path : Path} {f : Array Event → Array Event} {files : List (Path × Array Event)}
  {entry : Path × Array Event} {file : List PathComponent}

/-- The paths of some entries, apart from their spelling. -/
def names (files : List (Path × Array Event)) : List (List PathComponent) :=
  files.map fun entry => entry.1.components

/-- Entries in the order of their paths, each path once. -/
def Ordered (files : List (Path × Array Event)) : Prop :=
  files.Pairwise fun a b => a.1.compare b.1 = .lt

/-- The place of a path among some entries: it has one between those of smaller and of greater
paths, or it has none and gets one there. -/
inductive Located (path : Path) (files : List (Path × Array Event)) : Prop where
  | found (before after : List (Path × Array Event)) (other : Path) (events : Array Event)
      (hBefore : ∀ entry ∈ before, entry.1.compare path = .lt)
      (hAfter : ∀ entry ∈ after, path.compare entry.1 = .lt)
      (hSame : path.components = other.components)
      (hFiles : files = before ++ (other, events) :: after)
      (hUpdate : ∀ f, updateIn path f files = before ++ (other, f events) :: after)
  | absent (before after : List (Path × Array Event))
      (hBefore : ∀ entry ∈ before, entry.1.compare path = .lt)
      (hAfter : ∀ entry ∈ after, path.compare entry.1 = .lt)
      (hFiles : files = before ++ after)
      (hUpdate : ∀ f, updateIn path f files = before ++ (path, f #[]) :: after)

theorem components_ne_of_compare_eq_lt {a b : Path} (h : a.compare b = .lt) :
    a.components ≠ b.components := by
  intro hSame
  rw [Path.compare_eq_iff.mpr hSame] at h
  cases h

namespace Ordered

theorem located (h : Ordered files) (path : Path) : Located path files := by
  induction files with
  | nil => exact .absent [] [] (by simp) (by simp) rfl fun _ => rfl
  | cons first files ih =>
    obtain ⟨other, events⟩ := first
    obtain ⟨hFirst, hRest⟩ := List.pairwise_cons.mp h
    cases hOrder : path.compare other with
    | eq =>
      refine .found [] files other events (by simp) ?_ (Path.compare_eq_iff.mp hOrder) rfl ?_
      · exact fun entry hMem => Std.TransCmp.lt_of_eq_of_lt hOrder (hFirst entry hMem)
      · simp [Collector.updateIn, hOrder]
    | lt =>
      refine .absent [] ((other, events) :: files) (by simp) ?_ rfl ?_
      · intro entry hMem
        rcases List.mem_cons.mp hMem with rfl | hMem
        · exact hOrder
        · exact Std.TransCmp.lt_trans hOrder (hFirst entry hMem)
      · simp [Collector.updateIn, hOrder]
    | gt =>
      -- The path comes after the first entry, so its place is among the others.
      have hLess : other.compare path = .lt := Std.OrientedCmp.gt_iff_lt.mp hOrder
      cases ih hRest with
      | found before after found kept hBefore hAfter hSame hFiles hUpdate =>
        refine .found ((other, events) :: before) after found kept ?_ hAfter hSame
          (by rw [hFiles, List.cons_append]) fun f => ?_
        · exact List.forall_mem_cons.mpr ⟨hLess, hBefore⟩
        · simp [Collector.updateIn, hOrder, hUpdate f]
      | absent before after hBefore hAfter hFiles hUpdate =>
        refine .absent ((other, events) :: before) after ?_ hAfter
          (by rw [hFiles, List.cons_append]) fun f => ?_
        · exact List.forall_mem_cons.mpr ⟨hLess, hBefore⟩
        · simp [Collector.updateIn, hOrder, hUpdate f]

theorem updateIn (h : Ordered files) (path : Path) (f : Array Event → Array Event) :
    Ordered (updateIn path f files) := by
  cases h.located path with
  | found before after other events hBefore hAfter hSame hFiles hUpdate =>
    rw [Ordered, hFiles] at h
    rw [Ordered, hUpdate f]
    simpa [List.pairwise_append] using h
  | absent before after hBefore hAfter hFiles hUpdate =>
    rw [Ordered, hFiles, List.pairwise_append] at h
    rw [Ordered, hUpdate f, List.pairwise_append, List.pairwise_cons]
    refine ⟨h.1, ⟨hAfter, h.2.1⟩, fun a ha => List.forall_mem_cons.mpr ⟨hBefore a ha, h.2.2 a ha⟩⟩

theorem nodup_names (h : Ordered files) : (names files).Nodup :=
  List.Pairwise.map _ (fun _ _ => components_ne_of_compare_eq_lt) h

theorem mem_names_updateIn (h : Ordered files) :
    file ∈ names (Collector.updateIn path f files) ↔
      file = path.components ∨ file ∈ names files := by
  cases h.located path with
  | found before after other events hBefore hAfter hSame hFiles hUpdate =>
    have hNames : names (Collector.updateIn path f files) = names files := by
      rw [hUpdate f, hFiles]
      simp [names]
    have hMet : path.components ∈ names files := by simp [hFiles, names, hSame]
    rw [hNames]
    constructor
    · exact Or.inr
    · rintro (rfl | hMem)
      · exact hMet
      · exact hMem
  | absent before after hBefore hAfter hFiles hUpdate =>
    rw [hUpdate f, hFiles]
    simp only [names, List.map_append, List.map_cons, List.mem_append, List.mem_cons]
    exact or_left_comm

/-- An entry after a change is one of another path that was there before, or that of the path, which
had an entry before or has its first events now. -/
theorem of_mem_updateIn (h : Ordered files) (hMem : entry ∈ Collector.updateIn path f files) :
    entry ∈ files ∧ path.components ≠ entry.1.components ∨
      path.components = entry.1.components ∧ ∃ events, entry.2 = f events ∧
        ((entry.1, events) ∈ files ∨ events = #[] ∧ path.components ∉ names files) := by
  cases h.located path with
  | found before after other events hBefore hAfter hSame hFiles hUpdate =>
    rw [hUpdate f, List.mem_append, List.mem_cons] at hMem
    rcases hMem with hMem | rfl | hMem
    · exact Or.inl ⟨by simp [hFiles, hMem],
        (components_ne_of_compare_eq_lt (hBefore entry hMem)).symm⟩
    · exact Or.inr ⟨hSame, events, rfl, Or.inl (by simp [hFiles])⟩
    · exact Or.inl ⟨by simp [hFiles, hMem], components_ne_of_compare_eq_lt (hAfter entry hMem)⟩
  | absent before after hBefore hAfter hFiles hUpdate =>
    have hNew : path.components ∉ names files := by
      intro hName
      obtain ⟨old, hOld, hEq⟩ := List.mem_map.mp hName
      rw [hFiles, List.mem_append] at hOld
      rcases hOld with hOld | hOld
      · exact components_ne_of_compare_eq_lt (hBefore old hOld) hEq
      · exact components_ne_of_compare_eq_lt (hAfter old hOld) hEq.symm
    rw [hUpdate f, List.mem_append, List.mem_cons] at hMem
    rcases hMem with hMem | rfl | hMem
    · exact Or.inl ⟨by simp [hFiles, hMem],
        (components_ne_of_compare_eq_lt (hBefore entry hMem)).symm⟩
    · exact Or.inr ⟨rfl, #[], rfl, Or.inr ⟨rfl, hNew⟩⟩
    · exact Or.inl ⟨by simp [hFiles, hMem], components_ne_of_compare_eq_lt (hAfter entry hMem)⟩

end Ordered

end Lineation.Diagnostics.Collector
