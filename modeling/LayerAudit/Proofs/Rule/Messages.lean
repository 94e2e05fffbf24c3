import LayerAudit.Proofs.Rule.Places
import LayerAudit.Proofs.Text.Lines

/-!
# What messages are made of

The message of a finding is made of fixed words, numbers, and names that come with the file: its own, and
those of the imports and the declarations in it. Names are put in as they are, so a message has a line break
exactly where a name has one. Main statement: if the names of a file fit on one line, so does what the
rules say of it.

That a file cannot be parsed is said in fixed words and numbers, but for the kind of a missing token.
-/

namespace LayerAudit

open Text

/-- Whether the names that come with a file fit on one line: its own, and those of the imports and the
declarations in it. -/
structure SourceFile.NamesOneLine (file : SourceFile) : Prop where
  baseName : IsOneLine file.baseName
  subject : ∀ s ∈ file.facts.subjects, IsOneLine s.name

namespace SourceFile.NamesOneLine

variable {file : SourceFile} (hfile : file.NamesOneLine)

include hfile

/-- The specifier of an import of the file fits on one line. -/
theorem ofImport {i : Import} (h : i ∈ file.facts.imports) : IsOneLine i.specifier :=
  hfile.subject _ (Facts.ofImport_mem_subjects h)

/-- The name of an interface of the file fits on one line. -/
theorem ofInterface {i : Interface} (h : i ∈ file.facts.interfaces) : IsOneLine i.name :=
  hfile.subject _ (Facts.ofInterface_mem_subjects h)

/-- The name of a class of the file fits on one line. -/
theorem ofClass {k : Class} (h : k ∈ file.facts.classes) : IsOneLine k.name :=
  hfile.subject _ (Facts.ofClass_mem_subjects h)

end SourceFile.NamesOneLine

/-- A check that states one finding or none has the message of that finding. -/
theorem Finding.isOneLine_of_mem_ite {p : Prop} [Decidable p] {f g : Finding}
    (h : f ∈ if p then [] else [g]) (hg : IsOneLine g.message) : IsOneLine f.message := by
  split at h
  · exact absurd h List.not_mem_nil
  · exact List.mem_singleton.mp h ▸ hg

/-- The names of layers fit on one line. -/
theorem Layer.isOneLine_segment (layer : Layer) : IsOneLine layer.segment := by
  cases layer <;> decide

namespace Rule

variable {c : Classifier} {file : SourceFile} {f : Finding}

/-- What is said of an import fits on one line if its specifier does. -/
theorem LayerDependency.isOneLine_of_mem (hfile : file.NamesOneLine)
    (h : f ∈ fileFindings c file) : IsOneLine f.message := by
  unfold fileFindings at h
  split at h
  · exact absurd h List.not_mem_nil
  next own _ =>
    obtain ⟨i, hi, hfinding⟩ := List.mem_filterMap.mp h
    unfold importFinding? at hfinding
    split at hfinding
    · contradiction
    next other _ =>
      split at hfinding
      · rw [← Option.some.inj hfinding]
        refine isOneLine_between (isOneLine_between ?_ other.isOneLine_segment (by decide))
          (hfile.ofImport hi) (by decide)
        exact isOneLine_append.mpr ⟨own.isOneLine_segment, by decide⟩
      · contradiction

/-- What is said of the name of an interface fits on one line if the name does. -/
theorem InterfaceConvention.isOneLine_of_mem_naming {i : Interface} (hname : IsOneLine i.name)
    (h : f ∈ namingFindings file i) : IsOneLine f.message :=
  Finding.isOneLine_of_mem_ite h
    (isOneLine_between (isOneLine_between (by decide) hname (by decide)) hname (by decide))

/-- What is said of the interfaces of a file fits on one line if their names and the name of the file do. -/
theorem InterfaceConvention.isOneLine_of_mem (hfile : file.NamesOneLine)
    (h : f ∈ fileFindings file) : IsOneLine f.message := by
  unfold fileFindings at h
  split at h
  · exact absurd h List.not_mem_nil
  next i hfacts =>
    have hname : IsOneLine i.name := hfile.ofInterface (hfacts ▸ List.mem_cons_self)
    rcases List.mem_append.mp h with hnaming | hnamed
    · exact isOneLine_of_mem_naming hname hnaming
    · exact Finding.isOneLine_of_mem_ite hnamed
        (isOneLine_between (isOneLine_between (by decide) hfile.baseName (by decide)) hname (by decide))
  next i rest _ hfacts =>
    rcases List.mem_append.mp h with hnaming | hothers
    · exact isOneLine_of_mem_naming (hfile.ofInterface (hfacts ▸ List.mem_cons_self)) hnaming
    · rcases List.mem_cons.mp hothers with rfl | hrest
      · exact isOneLine_between (by decide) (isOneLine_toString _) (by decide)
      · obtain ⟨other, hother, hnaming⟩ := List.mem_flatMap.mp hrest
        have hmem : other ∈ file.facts.interfaces := hfacts ▸ List.mem_cons_of_mem i hother
        exact isOneLine_of_mem_naming (hfile.ofInterface hmem) hnaming

/-- What is said of the contracts of repositories fits on one line if their names do. -/
theorem RepositoryPattern.isOneLine_of_mem_contracts (hfile : file.NamesOneLine)
    (h : f ∈ contractsOf c file) : IsOneLine f.message := by
  obtain ⟨i, hi, hcontract⟩ := List.mem_flatMap.mp h
  have hname : IsOneLine i.name := hfile.ofInterface (List.mem_of_mem_filter hi)
  exact Finding.isOneLine_of_mem_ite hcontract (isOneLine_between (by decide) hname (by decide))

/-- What is said of repositories fits on one line if their names do. -/
theorem RepositoryPattern.isOneLine_of_mem_repositories (hfile : file.NamesOneLine)
    (h : f ∈ repositoriesOf c file) : IsOneLine f.message := by
  obtain ⟨k, hk, hclass⟩ := List.mem_flatMap.mp h
  have hname : IsOneLine k.name := hfile.ofClass (List.mem_of_mem_filter hk)
  rcases List.mem_append.mp hclass with hplace | hconstructor
  · refine Finding.isOneLine_of_mem_ite hplace (isOneLine_append.mpr ⟨?_, by decide⟩)
    exact isOneLine_between (by decide) hname (by decide)
  · exact Finding.isOneLine_of_mem_ite hconstructor (isOneLine_between (by decide) hname (by decide))

/-- What is said of services and their contracts fits on one line if their names do. -/
theorem ServicePattern.isOneLine_of_mem (hfile : file.NamesOneLine)
    (h : f ∈ fileFindings c file) : IsOneLine f.message := by
  rcases List.mem_append.mp h with hcontract | hservice
  · obtain ⟨i, hi, hf⟩ := List.mem_flatMap.mp hcontract
    have hname : IsOneLine i.name := hfile.ofInterface (List.mem_of_mem_filter hi)
    exact Finding.isOneLine_of_mem_ite hf (isOneLine_between (by decide) hname (by decide))
  · obtain ⟨k, hk, hf⟩ := List.mem_flatMap.mp hservice
    have hname : IsOneLine k.name := hfile.ofClass (List.mem_of_mem_filter hk)
    exact Finding.isOneLine_of_mem_ite hf (isOneLine_between (by decide) hname (by decide))

/-- What is said of errors fits on one line if their names do. -/
theorem ErrorInheritance.isOneLine_of_mem (hfile : file.NamesOneLine)
    (h : f ∈ fileFindings c file) : IsOneLine f.message := by
  obtain ⟨k, hk, hclass⟩ := List.mem_flatMap.mp h
  have hname : IsOneLine k.name := hfile.ofClass (List.mem_of_mem_filter hk)
  have hwording {before middle behind : String} (hbefore : IsOneLine before)
      (hmiddle : IsOneLine middle) (hbehind : IsOneLine behind) :
      IsOneLine (before ++ k.name ++ middle ++ domainBase ++ behind ++ nativeBase) :=
    isOneLine_append.mpr
      ⟨isOneLine_between (isOneLine_between hbefore hname hmiddle) (by decide) hbehind, by decide⟩
  simp only [classFindings] at hclass
  split at hclass
  · rw [List.mem_singleton.mp hclass]
    exact hwording (by decide) (by decide) (by decide)
  · split at hclass
    · rw [List.mem_singleton.mp hclass]
      exact hwording (by decide) (by decide) (by decide)
    · exact absurd hclass List.not_mem_nil

/-- What is said of annotations fits on one line, since it names nothing. -/
theorem TypeQuality.isOneLine_of_mem (h : f ∈ fileFindings file) : IsOneLine f.message := by
  unfold fileFindings at h
  split at h
  · exact absurd h List.not_mem_nil
  · rw [List.mem_singleton.mp h]
    exact isOneLine_between (by decide) (isOneLine_toString _) (by decide)

/-- What a rule says of a file fits on one line if the names of the file do. -/
theorem isOneLine_of_mem_pass {r : Rule} {pass : SourceFile → List Finding} (hpass : pass ∈ r.passes c)
    (hfile : file.NamesOneLine) (h : f ∈ pass file) : IsOneLine f.message := by
  cases r with
  | layerDependency =>
    exact LayerDependency.isOneLine_of_mem hfile (List.mem_singleton.mp hpass ▸ h)
  | interfaceConvention =>
    exact InterfaceConvention.isOneLine_of_mem hfile (List.mem_singleton.mp hpass ▸ h)
  | repositoryPattern =>
    rcases List.mem_pair.mp hpass with rfl | rfl
    · exact RepositoryPattern.isOneLine_of_mem_contracts hfile h
    · exact RepositoryPattern.isOneLine_of_mem_repositories hfile h
  | servicePattern => exact ServicePattern.isOneLine_of_mem hfile (List.mem_singleton.mp hpass ▸ h)
  | errorInheritance =>
    exact ErrorInheritance.isOneLine_of_mem hfile (List.mem_singleton.mp hpass ▸ h)
  | typeQuality => exact TypeQuality.isOneLine_of_mem (List.mem_singleton.mp hpass ▸ h)

/-- What a rule says of files fits on one line if their names do. -/
theorem isOneLine_of_mem_findings {files : List SourceFile} {r : Rule}
    (hfiles : ∀ file ∈ files, file.NamesOneLine) (h : f ∈ r.findings c files) :
    IsOneLine f.message := by
  rw [findings_eq_flatMap_passes] at h
  obtain ⟨pass, hpass, hfindings⟩ := List.mem_flatMap.mp h
  obtain ⟨file, hfile, hf⟩ := List.mem_flatMap.mp hfindings
  exact isOneLine_of_mem_pass hpass (hfiles file hfile) hf

end Rule

/-- What is said of a path at which nothing is read fits on one line. -/
theorem PathFault.isOneLine_message (fault : PathFault) : IsOneLine fault.message := by
  cases fault with
  | notFound => decide
  | notDirectory => decide
  | isDirectory => decide
  | tooManyLinks => decide
  | unreadable fault =>
    have hwording : IsOneLine (fault.wording ++ " (os error ") :=
      isOneLine_append.mpr ⟨fault.oneLine, by decide⟩
    exact isOneLine_between hwording (isOneLine_toString _) (by decide)

/-- What is said of bytes that are no text fits on one line. -/
theorem Text.Utf8Fault.isOneLine_message (fault : Utf8Fault) : IsOneLine fault.message := by
  unfold message
  split
  · refine isOneLine_append.mpr ⟨?_, isOneLine_toString _⟩
    exact isOneLine_between (by decide) (isOneLine_toString _) (by decide)
  · exact isOneLine_append.mpr ⟨by decide, isOneLine_toString _⟩

/-- What is said of a file without facts fits on one line if what is said of the fault in its text does. -/
theorem LoadFault.isOneLine_message {fault : LoadFault}
    (h : ∀ malformed, fault = .malformed malformed → IsOneLine malformed.message) :
    IsOneLine fault.message := by
  cases fault with
  | unreadable fault => exact isOneLine_append.mpr ⟨by decide, fault.isOneLine_message⟩
  | notText fault => exact isOneLine_append.mpr ⟨by decide, fault.isOneLine_message⟩
  | malformed fault => exact h fault rfl

end LayerAudit
