import LayerAudit.Proofs.Store.Recording
import LayerAudit.Cache
import Mathlib.Data.List.Basic

/-!
# What is recorded of declarations

A rule on declarations goes over files, and in each file over the declarations of one kind whose names have
a mark. It looks at each of them alone, and states of it one finding of a severity at most. So what it
states at that severity is told by two things: which declarations it finds fault with, and what it states
of one of them.
-/

namespace LayerAudit.Rule

variable {α : Type}

/-- What a file declares of one kind, each with the file, in source order. -/
def declaredIn (items : Facts → List α) (file : SourceFile) : List (SourceFile × α) :=
  (items file.facts).map fun a => (file, a)

/-- What files declare of one kind, each with its file, in the order of the files. -/
def declared (items : Facts → List α) (files : List SourceFile) : List (SourceFile × α) :=
  files.flatMap (declaredIn items)

variable {items : Facts → List α} {marked : α → Bool} {check : SourceFile → α → List Finding}
  {severity : Severity}

/-- A pass that states nothing at a severity of any one declaration states nothing at it. -/
theorem ofSeverity_pass_eq_nil (h : ∀ file a, Store.ofSeverity severity (check file a) = [])
    (files : List SourceFile) :
    Store.ofSeverity severity
      (files.flatMap fun file => ((items file.facts).filter marked).flatMap (check file)) = [] := by
  simp [h]

variable (fine : SourceFile × α → Prop) {faulty : SourceFile × α → Prop} [DecidablePred fine]
  [DecidablePred faulty] {finding : SourceFile × α → Finding}

/-- What a check states at a severity of the declarations in a file are the findings about those that have
the mark and are not fine. -/
theorem ofSeverity_check
    (hcheck : ∀ o, Store.ofSeverity severity (check o.1 o.2) = if fine o then [] else [finding o])
    (hfaulty : ∀ o, faulty o ↔ marked o.2 = true ∧ ¬fine o) (file : SourceFile) :
    Store.ofSeverity severity (((items file.facts).filter marked).flatMap (check file)) =
      ((declaredIn items file).filter (faulty ·)).map finding := by
  rw [Store.ofSeverity_flatMap, declaredIn]
  induction items file.facts with
  | nil => rfl
  | cons a rest ih =>
    have ha := hcheck (file, a)
    by_cases hmarked : marked a = true
    · by_cases hfine : fine (file, a) <;> simpa [hmarked, hfaulty, hfine, ha] using ih
    · simpa [hmarked, hfaulty] using ih

/-- What a pass over files states at a severity are the findings about the declarations in them that have
the mark and are not fine. -/
theorem ofSeverity_pass
    (hcheck : ∀ o, Store.ofSeverity severity (check o.1 o.2) = if fine o then [] else [finding o])
    (hfaulty : ∀ o, faulty o ↔ marked o.2 = true ∧ ¬fine o) (files : List SourceFile) :
    Store.ofSeverity severity
        (files.flatMap fun file => ((items file.facts).filter marked).flatMap (check file)) =
      ((declared items files).filter (faulty ·)).map finding := by
  rw [Store.ofSeverity_flatMap, declared, List.filter_flatMap, List.map_flatMap]
  exact List.flatMap_congr fun file _ => ofSeverity_check fine hcheck hfaulty file

end LayerAudit.Rule
