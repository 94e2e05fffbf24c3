import LayerAudit.Proofs.Layer.Classification
import LayerAudit.Proofs.Rule.Declarations
import LayerAudit.Proofs.Rule.Locality
import Mathlib.Data.List.Infix

/-!
# Base classes of errors

A class is an error by its name, and should then extend the domain's base class or the language's, told by
the simple names of the types that it extends. In the domain the language's does not do, except for the
domain's base class itself. Main statement: the rule on error classes records one violation for each error
class that extends neither, and with another code one for each class in the domain that extends only the
language's. Whether it does so depends on the class and its file alone, no class is recorded twice, and
classes of other names are not recorded at all.
-/

namespace LayerAudit.Rule.ErrorInheritance

/-- A name that says it is an error's: the word occurs in it. -/
def NamesError (name : String) : Prop := "Error".toList <:+: name.toList

/-- A class with a type of a given simple name among those that it extends. -/
def Extends (k : Class) (name : String) : Prop := ∃ base ∈ k.bases, base.simpleName = name

/-- An error class that extends no base class for errors. -/
def LacksBase (o : SourceFile × Class) : Prop :=
  NamesError o.2.name ∧ ¬Extends o.2 "DomainError" ∧ ¬Extends o.2 "Error"

/-- An error class in the domain that extends the language's base class in place of the domain's. -/
def UsesNativeBase (root : Path) (o : SourceFile × Class) : Prop :=
  NamesError o.2.name ∧ Extends o.2 "Error" ∧ ¬Extends o.2 "DomainError" ∧
    o.2.name ≠ "DomainError" ∧ LiesIn root o.1.path .domain

instance : DecidablePred NamesError := fun _ => inferInstanceAs (Decidable (_ <:+: _))

instance (k : Class) : DecidablePred (Extends k) :=
  fun _ => inferInstanceAs (Decidable (∃ base ∈ k.bases, _ = _))

instance : DecidablePred LacksBase := fun _ => inferInstanceAs (Decidable (_ ∧ ¬_ ∧ ¬_))

instance (root : Path) : DecidablePred (UsesNativeBase root) :=
  fun _ => inferInstanceAs (Decidable (_ ∧ _ ∧ ¬_ ∧ _ ∧ _))

/-- What is stated of an error class that extends no base class for errors. -/
def baseFinding (o : SourceFile × Class) : Finding :=
  ⟨o.1.path, some o.2.line, .errorInheritance,
    "Error class '" ++ o.2.name ++ "' must extend DomainError or Error"⟩

/-- What is stated of a class in the domain that extends the language's base class. -/
def nativeBaseFinding (o : SourceFile × Class) : Finding :=
  ⟨o.1.path, some o.2.line, .useDomainError,
    "Domain error '" ++ o.2.name ++ "' should extend DomainError instead of Error"⟩

/-- A class is taken for an error exactly if its name says so. -/
theorem isMarked_iff {name : String} : isMarked name = true ↔ NamesError name :=
  occursIn_iff_infix _ _

/-- A class is taken to extend a base exactly if it names that base. -/
theorem extendsNamed_iff {k : Class} {name : String} : k.extendsNamed name = true ↔ Extends k name := by
  simp [Class.extendsNamed, Extends]

/-- What is stated of one error class. -/
theorem classFindings_eq (root : Path) (o : SourceFile × Class) :
    classFindings (.ofRoot root) o.1 o.2 =
      if ¬(Extends o.2 "DomainError" ∨ Extends o.2 "Error") then [baseFinding o]
      else if Extends o.2 "Error" ∧ ¬Extends o.2 "DomainError" ∧ o.2.name ≠ "DomainError" ∧
        LiesIn root o.1.path .domain then [nativeBaseFinding o]
      else [] := by
  -- the names of the base classes are put together with the words around them
  have hbase : "Error class '" ++ o.2.name ++ "' must extend " ++ domainBase ++ " or " ++ nativeBase =
      "Error class '" ++ o.2.name ++ "' must extend DomainError or Error" := by
    simp only [String.append_assoc]
    rfl
  have hnative : "Domain error '" ++ o.2.name ++ "' should extend " ++ domainBase ++
      " instead of " ++ nativeBase =
        "Domain error '" ++ o.2.name ++ "' should extend DomainError instead of Error" := by
    simp only [String.append_assoc]
    rfl
  simp only [classFindings, hbase, hnative, Bool.and_eq_true, Bool.not_eq_true', bne_iff_ne,
    decide_eq_true_eq, ← Bool.not_eq_true, extendsNamed_iff, Classifier.layerOfFile_eq_some_iff,
    and_assoc, not_or]
  rfl

/-- The errors about error classes are about those that extend no base class. -/
theorem errors_findings (root : Path) (files : List SourceFile) :
    Store.ofSeverity .error (findings (.ofRoot root) files) =
      ((declared Facts.classes files).filter (LacksBase ·)).map baseFinding := by
  apply ofSeverity_pass fun o => Extends o.2 "DomainError" ∨ Extends o.2 "Error"
  · intro o
    rw [classFindings_eq]
    by_cases hbase : Extends o.2 "DomainError" ∨ Extends o.2 "Error"
    · rw [if_neg (not_not.mpr hbase), if_pos hbase]
      split <;> rfl
    · rw [if_pos hbase, if_neg hbase]
      rfl
  · intro o
    rw [LacksBase, isMarked_iff, not_or]

/-- The warnings about error classes are about those in the domain that extend the language's base class. -/
theorem warnings_findings (root : Path) (files : List SourceFile) :
    Store.ofSeverity .warning (findings (.ofRoot root) files) =
      ((declared Facts.classes files).filter (UsesNativeBase root ·)).map nativeBaseFinding := by
  apply ofSeverity_pass fun o => ¬(Extends o.2 "Error" ∧ ¬Extends o.2 "DomainError" ∧
    o.2.name ≠ "DomainError" ∧ LiesIn root o.1.path .domain)
  · intro o
    rw [classFindings_eq]
    split
    next hnone =>
      rw [if_pos fun hnative => hnone (Or.inr hnative.1)]
      rfl
    next => split <;> rfl
  · intro o
    rw [UsesNativeBase, isMarked_iff, not_not]

/-- The rule on error classes records those that extend no base class for errors, and with another code those
in the domain that extend the language's in place of the domain's. No class is recorded with both. The rule
records nothing else, whatever files are in the cache and whatever was recorded before. -/
theorem check_records_error_bases (root : Path) (cache : Cache) (store : Store) :
    store.Gains (Rule.check (.ofRoot root) cache store .errorInheritance)
        (((declared Facts.classes cache.files).filter (LacksBase ·)).map baseFinding)
        (((declared Facts.classes cache.files).filter (UsesNativeBase root ·)).map nativeBaseFinding)
        [] ∧
      ∀ o, ¬(LacksBase o ∧ UsesNativeBase root o) := by
  constructor
  · apply Store.gains_recordAll
    · exact errors_findings root cache.files
    · exact warnings_findings root cache.files
    · exact ofSeverity_findings_eq_nil (by decide) _ _
  · intro o ⟨hlacks, hnative⟩
    exact hlacks.2.2 hnative.2.1

end LayerAudit.Rule.ErrorInheritance
