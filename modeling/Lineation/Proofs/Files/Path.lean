import Mathlib.Data.String.Basic
import Mathlib.Order.Compare
import Lineation.Files.Path

/-!
# The order of paths

Two paths compare as equal exactly if they have the same components (`Path.compare_eq_iff`), and the
comparison is a linear order of the components: it is the lexicographic one, by kind of component and
then by name (`PathComponent.compare_eq_compareLex`, `Path.compareComponents_eq_compareLex`).
-/

namespace Lineation

theorem PathComponent.compare_eq_iff {a b : PathComponent} : a.compare b = .eq ↔ a = b := by
  cases a <;> cases b <;> simp [PathComponent.compare, rank]

/-- The text of a name; nothing for the other kinds. -/
def PathComponent.text : PathComponent → String
  | name text => text
  | _ => ""

theorem PathComponent.compare_eq_compareLex :
    PathComponent.compare = compareLex (compareOn rank) (compareOn text) := by
  funext a b
  cases a <;> cases b <;> rfl

instance : Std.TransCmp PathComponent.compare := by
  rw [PathComponent.compare_eq_compareLex]
  infer_instance

namespace Path

theorem compareComponents_eq_iff {as bs : List PathComponent} :
    compareComponents as bs = .eq ↔ as = bs := by
  induction as generalizing bs with
  | nil => cases bs <;> simp [compareComponents]
  | cons a as ih =>
    cases bs with
    | nil => simp [compareComponents]
    | cons b bs =>
      rw [compareComponents, List.cons.injEq, ← PathComponent.compare_eq_iff, ← ih]
      cases a.compare b <;> simp

theorem compare_eq_iff {a b : Path} : a.compare b = .eq ↔ a.components = b.components :=
  compareComponents_eq_iff

@[simp]
theorem compare_self (path : Path) : path.compare path = .eq :=
  compare_eq_iff.mpr rfl

theorem compareComponents_eq_compareLex :
    compareComponents = List.compareLex PathComponent.compare := by
  funext as
  induction as with
  | nil =>
    funext bs
    cases bs <;> rfl
  | cons a as ih =>
    funext bs
    cases bs with
    | nil => rfl
    | cons b bs =>
      rw [compareComponents, List.compareLex_cons_cons, ih]
      cases a.compare b <;> rfl

instance : Std.TransCmp compareComponents := by
  rw [compareComponents_eq_compareLex]
  infer_instance

instance : Std.TransCmp Path.compare where
  eq_swap {a b} := @Std.OrientedCmp.eq_swap _ compareComponents _ a.components b.components
  isLE_trans {a b c} :=
    @Std.TransCmp.isLE_trans _ compareComponents _ a.components b.components c.components

end Path

end Lineation
