import LayerAudit.Proofs.Rule.Topics

/-!
# Where topics lie

What a rule looks at in a file lies in that file: it is the file itself, or an import or a declaration
in it, and which of these is told by the code. So the findings of a rule get their lines from the file
that they name, and those with the code of a whole file, and no others, are without a line.

Of some codes there is one finding at most in a file.
-/

namespace LayerAudit

namespace Facts

variable {f : Facts}

/-- Imports are subjects. -/
theorem ofImport_mem_subjects {i : Import} (h : i ∈ f.imports) : .ofImport i ∈ f.subjects :=
  List.mem_append_left _ (List.mem_append_left _ (List.mem_map_of_mem h))

/-- Interfaces are subjects. -/
theorem ofInterface_mem_subjects {i : Interface} (h : i ∈ f.interfaces) :
    .ofInterface i ∈ f.subjects :=
  List.mem_append_left _ (List.mem_append_right _ (List.mem_map_of_mem h))

/-- Classes are subjects. -/
theorem ofClass_mem_subjects {k : Class} (h : k ∈ f.classes) : .ofClass k ∈ f.subjects :=
  List.mem_append_right _ (List.mem_map_of_mem h)

end Facts

namespace Topic

/-- Whether a topic lies in a file: it is the file or a subject in it, and its code says which. -/
structure LiesIn (t : Topic) (file : SourceFile) : Prop where
  path : t.file = file.path
  whole_iff : t.subject = none ↔ t.code ∈ Code.wholeFile
  subject_mem : ∀ s ∈ t.subject, s ∈ file.facts.subjects

variable {file : SourceFile} {code : Code} {t : Topic}

/-- A topic about a whole file lies in the file. -/
theorem liesIn_whole (hcode : code ∈ Code.wholeFile) : (whole code file).LiesIn file :=
  ⟨rfl, iff_of_true rfl hcode, fun _ hs => nomatch hs⟩

/-- A topic about something in a file lies in the file. -/
theorem liesIn_subject {s : Subject} (hs : s ∈ file.facts.subjects) (hcode : code ∉ Code.wholeFile) :
    (Topic.mk file.path (some s) code).LiesIn file :=
  ⟨rfl, iff_of_false (Option.some_ne_none s) hcode, fun _ hmem => Option.mem_some.mp hmem ▸ hs⟩

/-- The topics of the imports of a file lie in it. -/
theorem liesIn_of_mem_ofImports (hcode : code ∉ Code.wholeFile) (h : t ∈ ofImports code file) :
    t.LiesIn file := by
  obtain ⟨i, hi, rfl⟩ := List.mem_map.mp h
  exact liesIn_subject (Facts.ofImport_mem_subjects hi) hcode

/-- The topics of the interfaces of a file lie in it. -/
theorem liesIn_of_mem_ofInterfaces (hcode : code ∉ Code.wholeFile)
    (h : t ∈ ofInterfaces code file) : t.LiesIn file := by
  obtain ⟨i, hi, rfl⟩ := List.mem_map.mp h
  exact liesIn_subject (Facts.ofInterface_mem_subjects hi) hcode

/-- The topics of the classes of a file lie in it. -/
theorem liesIn_of_mem_ofClasses (hcode : code ∉ Code.wholeFile) (h : t ∈ ofClasses code file) :
    t.LiesIn file := by
  obtain ⟨k, hk, rfl⟩ := List.mem_map.mp h
  exact liesIn_subject (Facts.ofClass_mem_subjects hk) hcode

/-- The topics of the classes of a file lie in it, with two codes for each class, too. -/
theorem liesIn_of_mem_ofClassPairs {other : Code}
    (hcodes : code ∉ Code.wholeFile ∧ other ∉ Code.wholeFile) (h : t ∈ ofClassPairs code other file) :
    t.LiesIn file := by
  obtain ⟨k, hk, ht⟩ := List.mem_flatMap.mp h
  have hsubject := Facts.ofClass_mem_subjects hk
  rcases List.mem_pair.mp ht with rfl | rfl
  · exact liesIn_subject hsubject hcodes.1
  · exact liesIn_subject hsubject hcodes.2

/-- The topics of the name of an interface lie in its file. -/
theorem liesIn_of_mem_ofNames {i : Interface} (hi : i ∈ file.facts.interfaces)
    (h : t ∈ ofNames file i) : t.LiesIn file := by
  have hsubject := Facts.ofInterface_mem_subjects hi
  rcases List.mem_pair.mp h with rfl | rfl
  · exact liesIn_subject hsubject (by decide)
  · exact liesIn_subject hsubject (by decide)

end Topic

namespace Rule

open Topic

/-- What there may be to say of the interfaces of a file lies in the file. -/
theorem InterfaceConvention.liesIn_of_mem_topics {file : SourceFile} {t : Topic}
    (h : t ∈ topics file) : t.LiesIn file := by
  rcases List.mem_append.mp h with hfirst | hmore
  · obtain ⟨i, hi, ht⟩ := List.mem_flatMap.mp hfirst
    exact liesIn_of_mem_ofNames (List.mem_of_mem_take hi) ht
  · rcases List.mem_cons.mp hmore with rfl | hrest
    · exact liesIn_whole (by decide)
    · obtain ⟨i, hi, ht⟩ := List.mem_flatMap.mp hrest
      exact liesIn_of_mem_ofNames (List.mem_of_mem_drop hi) ht

/-- What a rule looks at in a file lies in it. -/
theorem liesIn_of_mem_topics {r : Rule} {topics : SourceFile → List Topic}
    (htopics : topics ∈ r.topics) {file : SourceFile} {t : Topic} (h : t ∈ topics file) :
    t.LiesIn file := by
  cases r with
  | layerDependency =>
    obtain rfl := List.mem_singleton.mp htopics
    exact liesIn_of_mem_ofImports (by decide) h
  | interfaceConvention =>
    obtain rfl := List.mem_singleton.mp htopics
    exact InterfaceConvention.liesIn_of_mem_topics h
  | repositoryPattern =>
    rcases List.mem_pair.mp htopics with rfl | rfl
    · exact liesIn_of_mem_ofInterfaces (by decide) h
    · exact liesIn_of_mem_ofClassPairs (by decide) h
  | servicePattern =>
    obtain rfl := List.mem_singleton.mp htopics
    rcases List.mem_append.mp h with hcontract | hservice
    · exact liesIn_of_mem_ofInterfaces (by decide) hcontract
    · exact liesIn_of_mem_ofClasses (by decide) hservice
  | errorInheritance =>
    obtain rfl := List.mem_singleton.mp htopics
    exact liesIn_of_mem_ofClassPairs (by decide) h
  | typeQuality =>
    obtain rfl := List.mem_singleton.mp htopics
    obtain rfl := List.mem_singleton.mp h
    exact liesIn_whole (by decide)

/-- What a rule finds in files comes from one of them: it is without a line if its code is that of a
whole file, and else it has the line of an import or a declaration in that file. -/
theorem exists_source_of_mem_findings {c : Classifier} {files : List SourceFile} {r : Rule}
    {f : Finding} (h : f ∈ r.findings c files) : ∃ file ∈ files, f.file = file.path ∧
      (f.line = none ↔ f.code ∈ Code.wholeFile) ∧
      ∀ line ∈ f.line, ∃ s ∈ file.facts.subjects, s.line = line := by
  obtain ⟨t, ht, hfile, hcode, hline, -⟩ := (ordered_findings c files r).exists_of_mem h
  obtain ⟨topics, htopics, hin⟩ := List.mem_flatMap.mp ht
  obtain ⟨file, hmem, htopic⟩ := List.mem_flatMap.mp hin
  have hlies := liesIn_of_mem_topics htopics htopic
  refine ⟨file, hmem, hfile.trans hlies.path, ?_, fun line hsome => ?_⟩
  · rw [hline, hcode, ← hlies.whole_iff, Option.map_eq_none_iff]
  · rw [hline] at hsome
    obtain ⟨s, hs, heq⟩ := Option.map_eq_some_iff.mp hsome
    exact ⟨s, hlies.subject_mem s hs, heq⟩

/-- That a file is not named after its interface, or that it has several, is said once, and not both. -/
theorem InterfaceConvention.length_filter_le_one (file : SourceFile) :
    ((fileFindings file).filter fun f =>
      decide (f.code ∈ [.fileNaming, .multipleInterfaces])).length ≤ 1 := by
  have hnaming (i : Interface) : (namingFindings file i).filter
      (fun f => decide (f.code ∈ [Code.fileNaming, .multipleInterfaces])) = [] := by
    refine List.filter_eq_nil_iff.mpr fun f hf => ?_
    have habout : f.IsAbout file [.interfaceNaming] :=
      Finding.isAbout_of_mem_ite ⟨rfl, List.mem_cons_self⟩ hf
    rw [List.mem_singleton.mp habout.2]
    decide
  unfold fileFindings
  split
  · exact Nat.zero_le 1
  next i _ =>
    rw [List.filter_append, hnaming, List.nil_append]
    refine Nat.le_trans (List.length_filter_le _ _) ?_
    unfold fileNamingFindings
    split
    · exact Nat.zero_le 1
    · exact Nat.le_refl 1
  next i rest _ _ =>
    have hrest : (rest.flatMap (namingFindings file)).filter
        (fun f => decide (f.code ∈ [Code.fileNaming, .multipleInterfaces])) = [] := by
      rw [List.filter_flatMap]
      exact List.flatMap_eq_nil_iff.mpr fun i _ => hnaming i
    rw [List.filter_append, hnaming, List.nil_append, List.filter_cons, hrest]
    exact Nat.le_refl 1

/-- That a file has annotations is said once. -/
theorem TypeQuality.length_fileFindings_le_one (file : SourceFile) :
    (fileFindings file).length ≤ 1 := by
  unfold fileFindings
  split
  · exact Nat.zero_le 1
  · exact Nat.le_refl 1

end Rule

end LayerAudit
