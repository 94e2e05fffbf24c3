import LayerAudit.Proofs.List.Parts
import LayerAudit.Proofs.Rule.Locality

/-!
# Files that move

A rule knows where a file lies only by the file's base name, by its layer and the layers of its imports,
and by whether it lies in the directory for repositories. If these are the same of a file at two places,
the rule states the same of it at both, and only the file that it is stated of differs.

Main statement: if files are shown alike at two places, too, then a rule's findings about them are recorded
alike.
-/

namespace LayerAudit

/-- The finding as it is stated of another file. -/
def Finding.movedTo (path : Path) (f : Finding) : Finding := { f with file := path }

/-- The violation that a finding is recorded as, with the severity of its code. -/
def Store.entry (s : Store) (f : Finding) : Violation := s.violation f.code.severity f

namespace Rule

/-- Whether two files have the same text and facts and lie in places that no rule tells apart. -/
structure SeenAlike (c d : Classifier) (file other : SourceFile) : Prop where
  content : other.content = file.content
  facts : other.facts = file.facts
  baseName : other.baseName = file.baseName
  layer : d.layerOfFile other.path = c.layerOfFile file.path
  imports : ∀ i ∈ file.facts.imports,
    d.layerOfImport i.specifier other.path = c.layerOfImport i.specifier file.path
  repositories : d.inSubdirectory other.path .infrastructure RepositoryPattern.directory =
    c.inSubdirectory file.path .infrastructure RepositoryPattern.directory

/-- A check that states one finding or none states it of the file that it looks at. -/
theorem map_movedTo_ite {p : Prop} [Decidable p] (path : Path) (f : Finding) :
    (if p then [] else [f]).map (Finding.movedTo path) = if p then [] else [f.movedTo path] := by
  split <;> rfl

variable {c d : Classifier} {file other : SourceFile}

/-- The rule on dependencies states the same of files that are seen alike. -/
theorem LayerDependency.fileFindings_of_seenAlike (h : SeenAlike c d file other) :
    fileFindings d other = (fileFindings c file).map (Finding.movedTo other.path) := by
  unfold fileFindings
  rw [h.layer, h.facts]
  split
  · rfl
  next own =>
    rw [List.map_filterMap]
    refine List.filterMap_congr fun i hi => ?_
    rw [importFinding?, importFinding?, h.imports i hi]
    split
    · rfl
    · split <;> rfl

/-- What is said of an interface's name only differs in the file. -/
theorem InterfaceConvention.namingFindings_movedTo (i : Interface) :
    namingFindings other i = (namingFindings file i).map (Finding.movedTo other.path) := by
  rw [namingFindings, namingFindings, map_movedTo_ite]
  rfl

/-- The rule on interfaces states the same of files that are seen alike. -/
theorem InterfaceConvention.fileFindings_of_seenAlike (h : SeenAlike c d file other) :
    fileFindings other = (fileFindings file).map (Finding.movedTo other.path) := by
  have hnaming (i : Interface) : namingFindings other i =
      (namingFindings file i).map (Finding.movedTo other.path) := namingFindings_movedTo i
  have hfile (i : Interface) : fileNamingFindings other i =
      (fileNamingFindings file i).map (Finding.movedTo other.path) := by
    rw [fileNamingFindings, fileNamingFindings, h.baseName, map_movedTo_ite]
    rfl
  have hmultiple : multipleFinding other = (multipleFinding file).movedTo other.path := by
    rw [multipleFinding, multipleFinding, h.facts]
    rfl
  unfold fileFindings
  rw [h.facts]
  split
  · rfl
  · rw [List.map_append, hnaming, hfile]
  · rw [List.map_append, List.map_cons, List.map_flatMap, hnaming, hmultiple]
    exact congrArg _ (congrArg _ (List.flatMap_congr fun i _ => hnaming i))

/-- The first pass over repositories states the same of files that are seen alike. -/
theorem RepositoryPattern.contractsOf_of_seenAlike (h : SeenAlike c d file other) :
    contractsOf d other = (contractsOf c file).map (Finding.movedTo other.path) := by
  rw [contractsOf, contractsOf, h.facts, List.map_flatMap]
  refine List.flatMap_congr fun i _ => ?_
  rw [contractFindings, contractFindings, h.layer, map_movedTo_ite]
  rfl

/-- The second pass over repositories states the same of files that are seen alike. -/
theorem RepositoryPattern.repositoriesOf_of_seenAlike (h : SeenAlike c d file other) :
    repositoriesOf d other = (repositoriesOf c file).map (Finding.movedTo other.path) := by
  rw [repositoriesOf, repositoriesOf, h.facts, List.map_flatMap]
  refine List.flatMap_congr fun k _ => ?_
  rw [List.map_append, placeFindings, placeFindings, constructorFindings, constructorFindings,
    h.repositories, map_movedTo_ite, map_movedTo_ite]
  rfl

/-- The rule on services states the same of files that are seen alike. -/
theorem ServicePattern.fileFindings_of_seenAlike (h : SeenAlike c d file other) :
    fileFindings d other = (fileFindings c file).map (Finding.movedTo other.path) := by
  rw [fileFindings, fileFindings, h.facts, List.map_append, List.map_flatMap, List.map_flatMap]
  congr 1
  · refine List.flatMap_congr fun i _ => ?_
    rw [contractFindings, contractFindings, h.layer, map_movedTo_ite]
    rfl
  · refine List.flatMap_congr fun k _ => ?_
    rw [constructorFindings, constructorFindings, map_movedTo_ite]
    rfl

/-- The rule on error classes states the same of files that are seen alike. -/
theorem ErrorInheritance.fileFindings_of_seenAlike (h : SeenAlike c d file other) :
    fileFindings d other = (fileFindings c file).map (Finding.movedTo other.path) := by
  rw [fileFindings, fileFindings, h.facts, List.map_flatMap]
  refine List.flatMap_congr fun k _ => ?_
  simp only [classFindings, h.layer]
  split
  · rfl
  · split <;> rfl

/-- The rule on annotations states the same of files that are seen alike. -/
theorem TypeQuality.fileFindings_of_seenAlike (h : SeenAlike c d file other) :
    fileFindings other = (fileFindings file).map (Finding.movedTo other.path) := by
  unfold fileFindings
  rw [h.content]
  split <;> rfl

/-- In each pass a rule states the same of files that are seen alike. -/
theorem forall₂_passes (c d : Classifier) (r : Rule) :
    List.Forall₂ (fun pass passOther => ∀ file other, SeenAlike c d file other →
      passOther other = (pass file).map (Finding.movedTo other.path)) (r.passes c) (r.passes d) := by
  cases r with
  | layerDependency => exact .cons (fun _ _ h => LayerDependency.fileFindings_of_seenAlike h) .nil
  | interfaceConvention =>
    exact .cons (fun _ _ h => InterfaceConvention.fileFindings_of_seenAlike h) .nil
  | repositoryPattern =>
    exact .cons (fun _ _ h => RepositoryPattern.contractsOf_of_seenAlike h)
      (.cons (fun _ _ h => RepositoryPattern.repositoriesOf_of_seenAlike h) .nil)
  | servicePattern => exact .cons (fun _ _ h => ServicePattern.fileFindings_of_seenAlike h) .nil
  | errorInheritance => exact .cons (fun _ _ h => ErrorInheritance.fileFindings_of_seenAlike h) .nil
  | typeQuality => exact .cons (fun _ _ h => TypeQuality.fileFindings_of_seenAlike h) .nil

/-- What a rule finds in files that are seen and shown alike is recorded alike. -/
theorem map_entry_findings {s t : Store} {files others : List SourceFile}
    (h : List.Forall₂ (fun file other => SeenAlike c d file other ∧
      other.path.relativeTo t.root = file.path.relativeTo s.root) files others) (r : Rule) :
    (r.findings d others).map t.entry = (r.findings c files).map s.entry := by
  rw [findings_eq_flatMap_passes, findings_eq_flatMap_passes]
  have hpasses := (List.forall₂_and_left _ _).mpr ⟨fun _ hpass => hpass, forall₂_passes c d r⟩
  refine map_flatMap_of_forall₂ hpasses fun pass passOther hpass => ?_
  refine map_flatMap_of_forall₂ h fun file other hfile => ?_
  rw [hpass.2 file other hfile.1, List.map_map]
  refine List.map_congr_left fun f hf => ?_
  have hshown : f.file.relativeTo s.root = other.path.relativeTo t.root := by
    rw [(isAbout_of_mem_pass hpass.1 hf).1, hfile.2]
  rw [Function.comp_apply, Store.entry, Store.entry, Store.violation, Store.violation, hshown]
  rfl

end Rule

end LayerAudit
