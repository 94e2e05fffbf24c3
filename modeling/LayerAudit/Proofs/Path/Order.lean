import LayerAudit.Proofs.Path.Components

/-!
# The order of paths

Components and lists of components are put in a linear order, and paths are compared by what they
mean. So the order of paths is transitive, two paths that mean different components are ordered one
way or the other, and no path comes before one that means the same.
-/

namespace LayerAudit

instance : Std.OrientedCmp Component.compare where
  eq_swap {a b} := by
    cases a <;> cases b
    case name.name a b => exact Std.OrientedOrd.eq_swap
    all_goals rfl

instance : Std.TransCmp Component.compare where
  isLE_trans {a b c} hab hbc := by
    cases a <;> cases b <;> cases c
    case name.name.name a b c => exact Std.TransOrd.isLE_trans (α := String) hab hbc
    all_goals first | rfl | contradiction

instance : Std.LawfulEqCmp Component.compare where
  compare_self {a} := by
    cases a with
    | name a => exact Std.ReflOrd.compare_self
    | root | current | parent => rfl
  eq_of_compare {a b} h := by
    cases a <;> cases b
    case name.name a b => exact congrArg Component.name (Std.LawfulEqOrd.eq_of_compare h)
    all_goals first | rfl | contradiction

namespace Path

/-- Lists of components are compared by their first difference. -/
theorem compareComponents_eq_compareLex (as bs : List Component) :
    compareComponents as bs = List.compareLex Component.compare as bs := by
  induction as generalizing bs with
  | nil => cases bs <;> rfl
  | cons a as ih =>
    cases bs with
    | nil => rfl
    | cons b bs => rw [compareComponents, List.compareLex_cons_cons, ih]

/-- A path that comes before another one. -/
def Before (p q : Path) : Prop := p.compare q = .lt

instance (p q : Path) : Decidable (p.Before q) := inferInstanceAs (Decidable (_ = _))

/-- Paths are compared component by component. -/
theorem compare_eq_compareLex (p q : Path) :
    p.compare q = List.compareLex Component.compare p.components q.components :=
  compareComponents_eq_compareLex _ _

/-- Paths compare as equal exactly if they mean the same. -/
theorem compare_eq_iff {p q : Path} : p.compare q = .eq ↔ p.components = q.components := by
  rw [compare_eq_compareLex]
  constructor
  · exact Std.LawfulEqCmp.eq_of_compare
  · intro h
    rw [h]
    exact Std.ReflCmp.compare_self

/-- Comparing the other way round swaps the answer. -/
theorem compare_swap (p q : Path) : p.compare q = (q.compare p).swap := by
  rw [compare_eq_compareLex, compare_eq_compareLex]
  exact Std.OrientedCmp.eq_swap

/-- What comes before a path comes before all that come after it. -/
theorem Before.trans {p q r : Path} (hpq : p.Before q) (hqr : q.Before r) : p.Before r := by
  unfold Before at *
  rw [compare_eq_compareLex] at *
  exact Std.TransCmp.lt_trans hpq hqr

/-- No path comes before one that means the same. -/
theorem Before.components_ne {p q : Path} (h : p.Before q) : p.components ≠ q.components := by
  intro heq
  rw [Before, compare_eq_iff.mpr heq] at h
  contradiction

/-- Of two paths at most one comes before the other. -/
theorem Before.asymm {p q : Path} (h : p.Before q) : ¬q.Before p :=
  fun hback => (h.trans hback).components_ne rfl

instance : Std.Asymm Path.Before := ⟨fun _ _ h => h.asymm⟩

/-- Paths that mean different components are ordered one way or the other. -/
theorem before_or_before {p q : Path} (h : p.components ≠ q.components) :
    p.Before q ∨ q.Before p := by
  cases hcompare : p.compare q with
  | lt => exact Or.inl hcompare
  | eq => exact absurd (compare_eq_iff.mp hcompare) h
  | gt =>
    refine Or.inr ?_
    rw [Before, compare_swap, hcompare]
    rfl

end Path

end LayerAudit
