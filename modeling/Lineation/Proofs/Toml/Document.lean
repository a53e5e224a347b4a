import Lineation.Toml.Document

/-!
# Statements that take effect

What the statements of a written file do: an assignment adds a name at the end of the current table,
and a header adds one more element to an array of tables, which the assignments after it fill.

Main statements:
* `Builder.add_assign`, `Builder.add_elementHeader`, `Builder.add_assign_element`: one statement;
* `Builder.toValue_concat`, `Builder.toValue_withElements`: the table in the end.
-/

namespace Lineation.Toml

namespace Entries

variable {entries : Entries} {name : String}

theorem lookup_cons_eq_none_iff {entry : String × Item} :
    (entry :: entries).lookup name = none ↔ entry.1 ≠ name ∧ entries.lookup name = none := by
  obtain ⟨other, item⟩ := entry
  by_cases h : other = name
  · simp [h]
  · have hBeq : (name == other) = false := by simpa using Ne.symm h
    rw [List.lookup_cons, hBeq]
    exact ⟨fun hNone => ⟨h, hNone⟩, fun hNone => hNone.2⟩

theorem put_of_lookup_eq_none (h : entries.lookup name = none) (item : Item) :
    entries.put name item = entries ++ [(name, item)] := by
  induction entries with
  | nil => rfl
  | cons entry entries ih =>
    obtain ⟨hNe, h⟩ := lookup_cons_eq_none_iff.mp h
    rw [put, if_neg hNe, ih h]
    rfl

theorem lookup_concat (h : entries.lookup name = none) (item : Item) :
    (entries ++ [(name, item)]).lookup name = some item := by
  rw [List.lookup_append, h, Option.none_or, List.lookup_cons_self]

theorem put_concat (h : entries.lookup name = none) (old item : Item) :
    Entries.put (entries ++ [(name, old)]) name item = entries ++ [(name, item)] := by
  induction entries with
  | nil => exact if_pos rfl
  | cons entry entries ih =>
    obtain ⟨hNe, h⟩ := lookup_cons_eq_none_iff.mp h
    rw [List.cons_append, put, if_neg hNe, ih h]
    rfl

theorem assign_of_lookup_eq_none (h : entries.lookup name = none) (home : Home) (value : Value) :
    entries.assign home ⟨[], name⟩ value .header = .ok (entries ++ [(name, .value value)]) := by
  have hNew : ¬ (entries.lookup name).isSome := by simp [h]
  simp only [assign, within, Entries.insert, List.isEmpty_nil, Bool.not_true, Bool.false_and,
    Bool.not_false, Bool.true_and, if_neg hNew, put_of_lookup_eq_none h]
  rfl

/-- A table with the elements of an array of tables at its end, latest first. Without elements the
array has not come about. -/
def withElements (entries : Entries) (name : String) : List Entries → Entries
  | [] => entries
  | latest :: earlier => entries ++ [(name, .tables latest earlier)]

end Entries

namespace Builder

open Entries

variable {entries : Entries} {name : String}

theorem add_assign (h : entries.lookup name = none) (value : Value) :
    add ⟨entries, some []⟩ (.assign ⟨[], name⟩ value) =
      .ok ⟨entries ++ [(name, .value value)], some []⟩ := by
  simp only [add, Option.getD_some, within, assign_of_lookup_eq_none h]
  rfl

theorem add_elementHeader (h : entries.lookup name = none) (elements : List Entries)
    (home : Home) :
    add ⟨withElements entries name elements, home⟩ (.elementHeader ⟨[], name⟩) =
      .ok ⟨withElements entries name ([] :: elements), some [name]⟩ := by
  cases elements with
  | nil =>
    simp only [add, within, startElement, withElements, h, put_of_lookup_eq_none h]
    rfl
  | cons latest earlier =>
    simp only [add, within, startElement, withElements, lookup_concat h, put_concat h]
    rfl

theorem add_assign_element (h : entries.lookup name = none) (latest : Entries)
    (earlier : List Entries) (key : String) (hKey : latest.lookup key = none) (value : Value) :
    add ⟨withElements entries name (latest :: earlier), some [name]⟩
        (.assign ⟨[], key⟩ value) =
      .ok ⟨withElements entries name ((latest ++ [(key, .value value)]) :: earlier),
        some [name]⟩ := by
  simp only [add, Option.getD_some, within, withElements, lookup_concat h,
    assign_of_lookup_eq_none hKey, Except.map, put_concat h]

end Builder

theorem entriesToValues_eq_map (entries : Entries) :
    entriesToValues entries = entries.map fun (name, item) => (name, item.toValue) := by
  induction entries with
  | nil => rfl
  | cons entry entries ih => rw [entriesToValues, ih]; rfl

theorem elementsToValues_eq_map (elements : List Entries) :
    elementsToValues elements = elements.map fun entries => .table (entriesToValues entries) := by
  induction elements with
  | nil => rfl
  | cons entries elements ih => rw [elementsToValues, ih]; rfl

theorem Item.toValue_tables (latest : Entries) (earlier : List Entries) :
    (Item.tables latest earlier).toValue =
      .array ((latest :: earlier).map fun entries => .table (entriesToValues entries)).reverse := by
  rw [Item.toValue, elementsToValues_eq_map, List.map_cons, List.reverse_cons]

theorem Builder.toValue_concat (entries : Entries) (name : String) (item : Item)
    (home : Entries.Home) :
    toValue ⟨entries ++ [(name, item)], home⟩ =
      .table (entriesToValues entries ++ [(name, item.toValue)]) := by
  simp only [toValue, entriesToValues_eq_map, List.map_append, List.map_cons, List.map_nil]

theorem Builder.toValue_withElements (entries : Entries) (name : String) {elements : List Entries}
    (h : elements ≠ []) (home : Entries.Home) :
    toValue ⟨entries.withElements name elements, home⟩ =
      .table (entriesToValues entries ++
        [(name, .array (elements.map fun element => .table (entriesToValues element)).reverse)]) := by
  obtain ⟨latest, earlier, rfl⟩ := List.exists_cons_of_ne_nil h
  rw [Entries.withElements, toValue_concat, Item.toValue_tables]

end Lineation.Toml
