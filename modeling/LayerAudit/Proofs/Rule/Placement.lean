import LayerAudit.Proofs.Layer.Subdirectory
import LayerAudit.Proofs.Rule.Declarations
import LayerAudit.Proofs.Rule.Locality
import Mathlib.Data.List.Infix

/-!
# Repositories and services out of place

A repository's contract belongs in the domain, and a repository in a directory for repositories below the
infrastructure's own. A service's contract belongs in the application; a service may live anywhere. Wherever
they live, repositories and services take what they need through a constructor. Main statement: the two rules
record one violation for each declaration that breaks one of these demands, at the line of the declaration,
and nothing else. A repository that breaks both of its own is recorded twice.

A repository has the word somewhere in its name, a service at the end of it. Where a declaration lies is told
by the path of its file below the source root, with dots resolved in both as the classifier resolves them.
-/

namespace LayerAudit.Rule

/-- A name that says it is a repository's: the word occurs in it. -/
def NamesRepository (name : String) : Prop := "Repository".toList <:+: name.toList

/-- A name that says it is a service's: the word ends it. -/
def NamesService (name : String) : Prop := "Service".toList <:+ name.toList

instance : DecidablePred NamesRepository := fun _ => inferInstanceAs (Decidable (_ <:+: _))

instance : DecidablePred NamesService := fun _ => inferInstanceAs (Decidable (_ <:+ _))

section Faults

variable (named : String → Prop) (root : Path)

/-- A contract by its name that is declared outside its own layer. -/
def IsStrayContract (own : Layer) (o : SourceFile × Interface) : Prop :=
  named o.2.name ∧ ¬LiesIn root o.1.path own

/-- An implementation by its name that has no constructor. -/
def LacksConstructor (o : SourceFile × Class) : Prop :=
  named o.2.name ∧ o.2.hasConstructor = false

variable [DecidablePred named]

instance (own : Layer) : DecidablePred (IsStrayContract named root own) :=
  fun _ => inferInstanceAs (Decidable (_ ∧ ¬_))

instance : DecidablePred (LacksConstructor named) := fun _ => inferInstanceAs (Decidable (_ ∧ _))

end Faults

namespace RepositoryPattern

/-- A repository that lives in no directory for repositories. -/
def IsStray (root : Path) (o : SourceFile × Class) : Prop :=
  NamesRepository o.2.name ∧ ¬LiesBelow root o.1.path .infrastructure "repositories"

instance (root : Path) : DecidablePred (IsStray root) :=
  fun _ => inferInstanceAs (Decidable (_ ∧ ¬_))

/-- What is stated of a contract that is out of place. -/
def strayContractFinding (o : SourceFile × Interface) : Finding :=
  ⟨o.1.path, some o.2.line, .repositoryLocation,
    "Repository interface '" ++ o.2.name ++ "' should be declared in the domain layer"⟩

/-- What is stated of a repository that is out of place. -/
def strayFinding (o : SourceFile × Class) : Finding :=
  ⟨o.1.path, some o.2.line, .repositoryLocation,
    "Repository implementation '" ++ o.2.name ++ "' should live in infrastructure/repositories"⟩

/-- What is stated of a repository without a constructor. -/
def constructorFinding (o : SourceFile × Class) : Finding :=
  ⟨o.1.path, some o.2.line, .repositoryDi,
    "Repository '" ++ o.2.name ++ "' should receive its dependencies through a constructor"⟩

/-- The word is looked for anywhere in a name. -/
theorem isMarked_iff {name : String} : isMarked name = true ↔ NamesRepository name :=
  occursIn_iff_infix _ _

/-- A contract for repositories is reported unless it lies in the domain layer. -/
theorem contractFindings_eq (root : Path) (o : SourceFile × Interface) :
    contractFindings (.ofRoot root) o.1 o.2 =
      if LiesIn root o.1.path .domain then [] else [strayContractFinding o] := by
  simp only [contractFindings, Classifier.layerOfFile_eq_some_iff]
  rfl

/-- A repository is reported unless it lies in the directory for repositories. -/
theorem placeFindings_eq (root : Path) (o : SourceFile × Class) :
    placeFindings (.ofRoot root) o.1 o.2 =
      if LiesBelow root o.1.path .infrastructure "repositories" then [] else [strayFinding o] := by
  have hmessage : "Repository implementation '" ++ o.2.name ++ "' should live in infrastructure/" ++
      directory = "Repository implementation '" ++ o.2.name ++
        "' should live in infrastructure/repositories" := by
    rw [String.append_assoc]
    rfl
  simp only [placeFindings, Classifier.inSubdirectory_iff, hmessage]
  rfl

/-- A repository is reported unless it has a constructor. -/
theorem constructorFindings_eq (o : SourceFile × Class) :
    constructorFindings o.1 o.2 = if o.2.hasConstructor then [] else [constructorFinding o] := rfl

/-- What is stated of contracts at the severity of errors. -/
theorem errors_contractsOf (root : Path) (files : List SourceFile) :
    Store.ofSeverity .error (files.flatMap (contractsOf (.ofRoot root))) =
      ((declared Facts.interfaces files).filter (IsStrayContract NamesRepository root .domain ·)).map
        strayContractFinding := by
  apply ofSeverity_pass fun o => LiesIn root o.1.path .domain
  · intro o
    rw [contractFindings_eq]
    split <;> rfl
  · intro o
    rw [IsStrayContract, isMarked_iff]

/-- Of contracts there are no warnings. -/
theorem warnings_contractsOf (c : Classifier) (files : List SourceFile) :
    Store.ofSeverity .warning (files.flatMap (contractsOf c)) = [] := by
  apply ofSeverity_pass_eq_nil
  intro file i
  unfold contractFindings
  split <;> rfl

/-- The errors about repositories are about where they live. -/
theorem errors_repositoriesOf (root : Path) (files : List SourceFile) :
    Store.ofSeverity .error (files.flatMap (repositoriesOf (.ofRoot root))) =
      ((declared Facts.classes files).filter (IsStray root ·)).map strayFinding := by
  apply ofSeverity_pass fun o => LiesBelow root o.1.path .infrastructure "repositories"
  · intro o
    rw [placeFindings_eq, constructorFindings_eq]
    split <;> split <;> rfl
  · intro o
    rw [IsStray, isMarked_iff]

/-- The warnings about repositories are about their constructors. -/
theorem warnings_repositoriesOf (root : Path) (files : List SourceFile) :
    Store.ofSeverity .warning (files.flatMap (repositoriesOf (.ofRoot root))) =
      ((declared Facts.classes files).filter (LacksConstructor NamesRepository ·)).map
        constructorFinding := by
  apply ofSeverity_pass fun o => o.2.hasConstructor = true
  · intro o
    rw [placeFindings_eq, constructorFindings_eq]
    split <;> split <;> rfl
  · intro o
    rw [LacksConstructor, isMarked_iff, Bool.not_eq_true]

end RepositoryPattern

namespace ServicePattern

/-- What is stated of a contract that is out of place. -/
def strayContractFinding (o : SourceFile × Interface) : Finding :=
  ⟨o.1.path, some o.2.line, .serviceLocation,
    "Service interface '" ++ o.2.name ++ "' should be declared in the application layer"⟩

/-- What is stated of a service without a constructor. -/
def constructorFinding (o : SourceFile × Class) : Finding :=
  ⟨o.1.path, some o.2.line, .serviceDi,
    "Service '" ++ o.2.name ++ "' should receive its dependencies through a constructor"⟩

/-- The word is looked for at the end of a name. -/
theorem isMarked_iff {name : String} : isMarked name = true ↔ NamesService name :=
  List.isSuffixOf_iff_suffix

/-- A contract for services is reported unless it lies in the application layer. -/
theorem contractFindings_eq (root : Path) (o : SourceFile × Interface) :
    contractFindings (.ofRoot root) o.1 o.2 =
      if LiesIn root o.1.path .application then [] else [strayContractFinding o] := by
  simp only [contractFindings, Classifier.layerOfFile_eq_some_iff]
  rfl

/-- A service is reported unless it has a constructor. -/
theorem constructorFindings_eq (o : SourceFile × Class) :
    constructorFindings o.1 o.2 = if o.2.hasConstructor then [] else [constructorFinding o] := rfl

/-- What is stated of the contracts and then of the services in a file. -/
theorem warnings_fileFindings (root : Path) (file : SourceFile) :
    Store.ofSeverity .warning (fileFindings (.ofRoot root) file) =
      ((declaredIn Facts.interfaces file).filter
            (IsStrayContract NamesService root .application ·)).map strayContractFinding ++
        ((declaredIn Facts.classes file).filter (LacksConstructor NamesService ·)).map
          constructorFinding := by
  rw [fileFindings, Store.ofSeverity_append]
  congr 1
  · apply ofSeverity_check fun o => LiesIn root o.1.path .application
    · intro o
      rw [contractFindings_eq]
      split <;> rfl
    · intro o
      rw [IsStrayContract, isMarked_iff]
  · apply ofSeverity_check fun o => o.2.hasConstructor = true
    · intro o
      rw [constructorFindings_eq]
      split <;> rfl
    · intro o
      rw [LacksConstructor, isMarked_iff, Bool.not_eq_true]

end ServicePattern

end LayerAudit.Rule
