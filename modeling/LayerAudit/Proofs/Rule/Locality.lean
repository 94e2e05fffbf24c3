import LayerAudit.Proofs.Store.Recording
import LayerAudit.Rule.Basic
import Mathlib.Data.List.Basic

/-!
# Rules look at each file alone

Every rule goes over the files in one or more passes, and in a pass it looks at one file at a time.
What it states there is about that file, and has one of the rule's own codes. No two rules share a
code, and failures to parse have a code of their own. So leaving files out leaves out what is stated
of them and nothing else, and the code of a finding tells the rule.
-/

namespace LayerAudit

/-- Whether a finding is about a given file and has one of some codes. -/
def Finding.IsAbout (f : Finding) (file : SourceFile) (codes : List Code) : Prop :=
  f.file = file.path ∧ f.code ∈ codes

/-- A check that states one finding or none is about the file that the finding is about. -/
theorem Finding.isAbout_of_mem_ite {p : Prop} [Decidable p] {f g : Finding} {file : SourceFile}
    {codes : List Code} (hg : g.IsAbout file codes) (h : f ∈ if p then [] else [g]) :
    f.IsAbout file codes := by
  split at h
  · exact absurd h List.not_mem_nil
  · exact List.mem_singleton.mp h ▸ hg

namespace Rule

/-- The rule on dependencies is about the file whose imports it looks at. -/
theorem LayerDependency.isAbout_of_mem {c : Classifier} {file : SourceFile} {f : Finding}
    (h : f ∈ fileFindings c file) : f.IsAbout file [.layerViolation] := by
  unfold fileFindings at h
  split at h
  · exact absurd h List.not_mem_nil
  next own =>
    obtain ⟨i, -, hfinding⟩ := List.mem_filterMap.mp h
    unfold importFinding? at hfinding
    split at hfinding
    · contradiction
    · split at hfinding
      · rw [← Option.some.inj hfinding]
        exact ⟨rfl, List.mem_cons_self⟩
      · contradiction

/-- What is said of an interface's name is about the file that declares it. -/
theorem InterfaceConvention.isAbout_of_mem_naming {file : SourceFile} {i : Interface} {f : Finding}
    (h : f ∈ namingFindings file i) :
    f.IsAbout file [.interfaceNaming, .fileNaming, .multipleInterfaces] :=
  Finding.isAbout_of_mem_ite ⟨rfl, by simp⟩ h

/-- The rule on interfaces is about the file that declares them. -/
theorem InterfaceConvention.isAbout_of_mem {file : SourceFile} {f : Finding}
    (h : f ∈ fileFindings file) :
    f.IsAbout file [.interfaceNaming, .fileNaming, .multipleInterfaces] := by
  unfold fileFindings at h
  split at h
  · exact absurd h List.not_mem_nil
  next i =>
    rcases List.mem_append.mp h with hnaming | hfile
    · exact isAbout_of_mem_naming hnaming
    · exact Finding.isAbout_of_mem_ite ⟨rfl, by simp⟩ hfile
  next i rest =>
    rcases List.mem_append.mp h with hnaming | hothers
    · exact isAbout_of_mem_naming hnaming
    · rcases List.mem_cons.mp hothers with rfl | hrest
      · exact ⟨rfl, by simp [multipleFinding]⟩
      · obtain ⟨other, -, hnaming⟩ := List.mem_flatMap.mp hrest
        exact isAbout_of_mem_naming hnaming

/-- The first pass over repositories is about the file with the contracts. -/
theorem RepositoryPattern.isAbout_of_mem_contracts {c : Classifier} {file : SourceFile} {f : Finding}
    (h : f ∈ contractsOf c file) : f.IsAbout file [.repositoryLocation, .repositoryDi] := by
  obtain ⟨i, -, hi⟩ := List.mem_flatMap.mp h
  exact Finding.isAbout_of_mem_ite ⟨rfl, by simp⟩ hi

/-- The second pass over repositories is about the file with the classes. -/
theorem RepositoryPattern.isAbout_of_mem_repositories {c : Classifier} {file : SourceFile}
    {f : Finding} (h : f ∈ repositoriesOf c file) :
    f.IsAbout file [.repositoryLocation, .repositoryDi] := by
  obtain ⟨k, -, hk⟩ := List.mem_flatMap.mp h
  rcases List.mem_append.mp hk with hplace | hconstructor
  · exact Finding.isAbout_of_mem_ite ⟨rfl, by simp⟩ hplace
  · exact Finding.isAbout_of_mem_ite ⟨rfl, by simp⟩ hconstructor

/-- The rule on services is about the file that declares them. -/
theorem ServicePattern.isAbout_of_mem {c : Classifier} {file : SourceFile} {f : Finding}
    (h : f ∈ fileFindings c file) : f.IsAbout file [.serviceLocation, .serviceDi] := by
  rcases List.mem_append.mp h with hcontract | hservice
  · obtain ⟨i, -, hi⟩ := List.mem_flatMap.mp hcontract
    exact Finding.isAbout_of_mem_ite ⟨rfl, by simp⟩ hi
  · obtain ⟨k, -, hk⟩ := List.mem_flatMap.mp hservice
    exact Finding.isAbout_of_mem_ite ⟨rfl, by simp⟩ hk

/-- The rule on error classes is about the file that declares them. -/
theorem ErrorInheritance.isAbout_of_mem {c : Classifier} {file : SourceFile} {f : Finding}
    (h : f ∈ fileFindings c file) : f.IsAbout file [.errorInheritance, .useDomainError] := by
  obtain ⟨k, -, hk⟩ := List.mem_flatMap.mp h
  simp only [classFindings] at hk
  split at hk
  · rw [List.mem_singleton.mp hk]
    exact ⟨rfl, by simp⟩
  · split at hk
    · rw [List.mem_singleton.mp hk]
      exact ⟨rfl, by simp⟩
    · exact absurd hk List.not_mem_nil

/-- The rule on annotations is about the file whose text it reads. -/
theorem TypeQuality.isAbout_of_mem {file : SourceFile} {f : Finding} (h : f ∈ fileFindings file) :
    f.IsAbout file [.anyType] := by
  unfold fileFindings at h
  split at h
  · exact absurd h List.not_mem_nil
  · rw [List.mem_singleton.mp h]
    exact ⟨rfl, List.mem_cons_self⟩

/-- The passes in which a rule goes over the files. -/
def passes (c : Classifier) : Rule → List (SourceFile → List Finding)
  | layerDependency => [LayerDependency.fileFindings c]
  | interfaceConvention => [InterfaceConvention.fileFindings]
  | repositoryPattern => [RepositoryPattern.contractsOf c, RepositoryPattern.repositoriesOf c]
  | servicePattern => [ServicePattern.fileFindings c]
  | errorInheritance => [ErrorInheritance.fileFindings c]
  | typeQuality => [TypeQuality.fileFindings]

/-- A rule states what it finds pass by pass, and in a pass file by file. -/
theorem findings_eq_flatMap_passes (c : Classifier) (files : List SourceFile) (r : Rule) :
    r.findings c files = (r.passes c).flatMap fun pass => files.flatMap pass := by
  cases r with
  | repositoryPattern =>
    rw [passes, List.flatMap_cons, List.flatMap_singleton]
    rfl
  | layerDependency | interfaceConvention | servicePattern | errorInheritance | typeQuality =>
    rw [passes, List.flatMap_singleton]
    rfl

/-- What a rule states when it looks at a file is about that file, with a code of the rule. -/
theorem isAbout_of_mem_pass {c : Classifier} {r : Rule} {pass : SourceFile → List Finding}
    (hpass : pass ∈ r.passes c) {file : SourceFile} {f : Finding} (h : f ∈ pass file) :
    f.IsAbout file r.codes := by
  cases r with
  | layerDependency => exact LayerDependency.isAbout_of_mem (List.mem_singleton.mp hpass ▸ h)
  | interfaceConvention => exact InterfaceConvention.isAbout_of_mem (List.mem_singleton.mp hpass ▸ h)
  | repositoryPattern =>
    rcases List.mem_cons.mp hpass with rfl | hsecond
    · exact RepositoryPattern.isAbout_of_mem_contracts h
    · exact RepositoryPattern.isAbout_of_mem_repositories (List.mem_singleton.mp hsecond ▸ h)
  | servicePattern => exact ServicePattern.isAbout_of_mem (List.mem_singleton.mp hpass ▸ h)
  | errorInheritance => exact ErrorInheritance.isAbout_of_mem (List.mem_singleton.mp hpass ▸ h)
  | typeQuality => exact TypeQuality.isAbout_of_mem (List.mem_singleton.mp hpass ▸ h)

/-- What a rule finds in files is about one of them, with a code of the rule. -/
theorem exists_isAbout_of_mem_findings {c : Classifier} {files : List SourceFile} {r : Rule}
    {f : Finding} (h : f ∈ r.findings c files) : ∃ file ∈ files, f.IsAbout file r.codes := by
  rw [findings_eq_flatMap_passes] at h
  obtain ⟨pass, hpass, hfindings⟩ := List.mem_flatMap.mp h
  obtain ⟨file, hfile, hf⟩ := List.mem_flatMap.mp hfindings
  exact ⟨file, hfile, isAbout_of_mem_pass hpass hf⟩

/-- A rule states nothing at a severity that none of its codes has. -/
theorem ofSeverity_findings_eq_nil {r : Rule} {severity : Severity}
    (h : ∀ code ∈ r.codes, code.severity ≠ severity) (c : Classifier) (files : List SourceFile) :
    Store.ofSeverity severity (r.findings c files) = [] := by
  apply List.filter_eq_nil_iff.mpr
  intro f hf hseverity
  obtain ⟨file, -, habout⟩ := exists_isAbout_of_mem_findings hf
  exact h f.code habout.2 (of_decide_eq_true hseverity)

/-- Leaving files out leaves out what a rule states of them. -/
theorem filter_findings (c : Classifier) (files : List SourceFile) (r : Rule)
    (keep : Path → Bool) :
    (r.findings c files).filter (fun f => keep f.file) =
      r.findings c (files.filter fun file => keep file.path) := by
  have hfile (pass : SourceFile → List Finding) (hpass : pass ∈ r.passes c) (file : SourceFile) :
      (pass file).filter (fun f => keep f.file) = if keep file.path then pass file else [] :=
    filter_eq_ite fun f hf => congrArg keep (isAbout_of_mem_pass hpass hf).1
  rw [findings_eq_flatMap_passes, findings_eq_flatMap_passes, List.filter_flatMap]
  exact List.flatMap_congr fun pass hpass =>
    filter_flatMap_eq fun file _ => hfile pass hpass file

/-- A code belongs to one rule at most. -/
theorem eq_of_mem_codes {r s : Rule} {code : Code} (hr : code ∈ r.codes) (hs : code ∈ s.codes) :
    r = s := by
  cases code <;> cases r <;> first
    | exact absurd hr (by decide)
    | (cases s <;> first | rfl | exact absurd hs (by decide))

/-- Failures to parse are stated by no rule. -/
theorem parseError_not_mem_codes (r : Rule) : .parseError ∉ r.codes := by
  cases r <;> decide

/-- Every rule is listed. -/
theorem mem_all (r : Rule) : r ∈ all := by
  cases r <;> decide

end Rule

end LayerAudit
