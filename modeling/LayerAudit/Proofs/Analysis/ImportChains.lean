import LayerAudit.Proofs.Analysis.Report
import LayerAudit.Proofs.Layer.ImportedFile
import LayerAudit.Proofs.Rule.OutwardImports
import Mathlib.Data.List.Chain

/-!
# What a clean report says of chains of imports

A run with the rule on dependencies that finds no violation of the order of layers, and could parse
every file, rules out more than single imports. Main statement: along any chain of files, each of
which imports the next one by a path, the layers never move outward, as long as the chain stays in
the domain, the application and the infrastructure. So a chain that starts in the domain stays there.

One step is the agreement of the two ways in which a layer is looked up, by the path that an import
names and by the path of the file. A chain is an induction over its steps.
-/

namespace LayerAudit

/-- How far out a layer stands. Shared helpers take no part in this order and are put last. -/
def Layer.rank : Layer → Nat
  | domain => 0
  | application => 1
  | infrastructure => 2
  | utils => 3

/-- Among the layers that are ordered, a layer may depend on those not further out. -/
theorem Layer.rank_le_of_not_forbids {own other : Layer} (hother : other ≠ utils)
    (h : own.forbids other = false) : other.rank ≤ own.rank := by
  cases own <;> cases other <;> first | decide | contradiction

/-- Whether a file imports another one by a path, as its facts tell. -/
def SourceFile.Imports (f g : SourceFile) : Prop :=
  ∃ i ∈ f.facts.imports, isRelativeSpecifier i.specifier = true ∧
    IsFileOf (importedPath f.path i.specifier) g.path

/-- Whether a file lies in one of the layers that are ordered. -/
def Classifier.Ranks (c : Classifier) (f : SourceFile) : Prop :=
  ∃ l, l ≠ .utils ∧ c.layerOfFile f.path = some l

/-- The rank of a file's layer; that of the innermost one if it has none. -/
def Classifier.rank (c : Classifier) (f : SourceFile) : Nat :=
  ((c.layerOfFile f.path).map Layer.rank).getD 0

/-- The layer of a file is that of any import which names it. -/
theorem layerOfImport_of_isFileOf {c : Classifier} {f g : SourceFile} {specifier : String}
    {l : Layer} (hspecifier : isRelativeSpecifier specifier = true)
    (hfile : IsFileOf (importedPath f.path specifier) g.path)
    (hlayer : c.layerOfFile g.path = some l) : c.layerOfImport specifier f.path = some l := by
  rw [Classifier.layerOfFile, layerOf_eq_some_iff] at hlayer
  rw [Classifier.layerOfImport, if_pos hspecifier]
  exact layerOf_eq_some_iff.mpr (liesIn_of_isFileOf hfile hlayer)

/-- A file of which the rule finds nothing imports no file further out. -/
theorem rank_le_of_imports {c : Classifier} {f g : SourceFile}
    (hclean : Rule.LayerDependency.fileFindings c f = []) (hf : c.Ranks f) (hg : c.Ranks g)
    (himports : f.Imports g) : c.rank g ≤ c.rank f := by
  obtain ⟨own, -, hown⟩ := hf
  obtain ⟨other, hother, hlayer⟩ := hg
  obtain ⟨i, hi, hspecifier, hfile⟩ := himports
  have himport := layerOfImport_of_isFileOf hspecifier hfile hlayer
  have hfinding : Rule.LayerDependency.importFinding? c f own i = none := by
    simp only [Rule.LayerDependency.fileFindings, hown, List.filterMap_eq_nil_iff] at hclean
    exact hclean i hi
  have hallowed : own.forbids other = false := by
    rw [Rule.LayerDependency.importFinding?, himport] at hfinding
    by_contra hforbids
    simp [hforbids] at hfinding
  rw [Classifier.rank, Classifier.rank, hown, hlayer]
  exact Layer.rank_le_of_not_forbids hother hallowed

/-- Along a chain of files of which the rule finds nothing the rank never grows. -/
theorem pairwise_rank_of_chain {c : Classifier} {chain : List SourceFile}
    (hclean : ∀ f ∈ chain, Rule.LayerDependency.fileFindings c f = [])
    (hranks : ∀ f ∈ chain, c.Ranks f) (himports : chain.IsChain SourceFile.Imports) :
    chain.Pairwise fun f g => c.rank g ≤ c.rank f := by
  induction chain with
  | nil => exact .nil
  | cons f rest ih =>
    have hrest := ih (fun g hg => hclean g (List.mem_cons_of_mem _ hg))
      (fun g hg => hranks g (List.mem_cons_of_mem _ hg)) himports.tail
    refine List.pairwise_cons.mpr ⟨fun g hg => ?_, hrest⟩
    cases rest with
    | nil => exact absurd hg List.not_mem_nil
    | cons next others =>
      obtain ⟨hnext, -⟩ := List.isChain_cons_cons.mp himports
      have hstep := rank_le_of_imports (hclean f List.mem_cons_self) (hranks f List.mem_cons_self)
        (hranks next (by simp)) hnext
      rcases List.mem_cons.mp hg with rfl | hg
      · exact hstep
      · exact Nat.le_trans ((List.pairwise_cons.mp hrest).1 g hg) hstep

/-- A file whose rank is not above that of the domain lies in the domain, if it has a rank. -/
theorem layerOfFile_eq_domain {c : Classifier} {f g : SourceFile}
    (hf : c.layerOfFile f.path = some .domain) (hg : c.Ranks g) (h : c.rank g ≤ c.rank f) :
    c.layerOfFile g.path = some .domain := by
  obtain ⟨l, hl, hlayer⟩ := hg
  rw [Classifier.rank, Classifier.rank, hf, hlayer] at h
  cases l with
  | domain => exact hlayer
  | application | infrastructure => exact absurd h (by decide)
  | utils => exact absurd rfl hl

namespace Analysis

variable {a : Analysis} {extract : Extractor} {tree : FileTree}

/-- A report without failures to parse comes from a run that could parse all that it collected. -/
theorem failed_eq_nil (h : ∀ v ∈ (a.result extract tree).report.violations, v.code ≠ .parseError) :
    (a.result extract tree).parsed.cache.failed = [] := by
  refine List.eq_nil_iff_forall_not_mem.mpr fun q hq => ?_
  obtain ⟨fault, hfault⟩ := (a.faithful_parsed extract tree).failed q hq
  have hfinding : ⟨q, none, .parseError, "Failed to parse file: " ++ fault.message⟩ ∈
      (a.result extract tree).parsed.cache.failed.flatMap
        (failureFindings (SourceFile.load extract tree)) := by
    refine List.mem_flatMap.mpr ⟨q, hq, ?_⟩
    rw [failureFindings, hfault]
    exact List.mem_cons_self
  obtain ⟨v, hv, hcode⟩ := exists_violation_of_finding (Or.inl hfinding)
  exact h v hv hcode

/-- A report without violations of the order comes from files of which the rule finds nothing. -/
theorem fileFindings_eq_nil (henabled : a.enables .layerDependency = true)
    (h : ∀ v ∈ (a.result extract tree).report.violations, v.code ≠ .layerViolation)
    {f : SourceFile} (hf : f ∈ (a.result extract tree).parsed.cache.files) :
    Rule.LayerDependency.fileFindings a.classifier f = [] := by
  refine List.eq_nil_iff_forall_not_mem.mpr fun finding hfinding => ?_
  have hfindings : finding ∈ Rule.findings a.classifier (a.result extract tree).parsed.cache.files
      .layerDependency := List.mem_flatMap.mpr ⟨f, hf, hfinding⟩
  obtain ⟨v, hv, hcode⟩ := exists_violation_of_finding (Or.inr ⟨_, henabled, hfindings⟩)
  exact h v hv (hcode.trans (Rule.LayerDependency.code_of_mem_findings hfindings))

/-- If the rule on dependencies runs and the report has neither violations of the order nor failures
to parse, all that was collected was parsed, and along every chain of imports in the three layers no
file lies further out than one before it. A chain that starts in the domain stays there. -/
theorem layers_never_move_outward {r : Result} (hrun : a.run extract tree = .ok r)
    (henabled : a.enables .layerDependency = true)
    (hclean : ∀ v ∈ r.report.violations, v.code ≠ .layerViolation ∧ v.code ≠ .parseError) :
    (∀ p ∈ r.files, ∃ f ∈ r.parsed.cache.files,
        f.path.same p = true ∧ SourceFile.load extract tree f.path = .ok f) ∧
      ∀ chain : List SourceFile,
        (∀ f ∈ chain, f ∈ r.parsed.cache.files ∧ a.classifier.Ranks f) →
        chain.IsChain SourceFile.Imports →
        (chain.Pairwise fun f g => a.classifier.rank g ≤ a.classifier.rank f) ∧
          ∀ f ∈ chain.head?, a.classifier.layerOfFile f.path = some .domain →
            ∀ g ∈ chain, a.classifier.layerOfFile g.path = some .domain := by
  obtain ⟨-, rfl⟩ := run_eq_ok_iff.mp hrun
  have hfailed := failed_eq_nil fun v hv => (hclean v hv).2
  constructor
  · intro p hp
    have hremembers : (a.result extract tree).parsed.cache.Remembers p :=
      Session.remembers_parseAll SourceFile.path_of_load _ _ (Or.inr hp)
    rcases hremembers with ⟨q, hq, -⟩ | ⟨f, hf, hsame⟩
    · rw [hfailed] at hq
      exact absurd hq List.not_mem_nil
    · exact ⟨f, hf, Path.same_iff.mpr hsame, (a.faithful_parsed extract tree).loaded f hf⟩
  · intro chain hchain himports
    have hpairwise := pairwise_rank_of_chain
      (fun f hf => fileFindings_eq_nil henabled (fun v hv => (hclean v hv).1) (hchain f hf).1)
      (fun f hf => (hchain f hf).2) himports
    refine ⟨hpairwise, fun f hf hdomain g hg => ?_⟩
    obtain ⟨rest, rfl⟩ := List.head?_eq_some_iff.mp hf
    rcases List.mem_cons.mp hg with rfl | hrest
    · exact hdomain
    · exact layerOfFile_eq_domain hdomain (hchain g hg).2 ((List.pairwise_cons.mp hpairwise).1 g hrest)

section TwoFiles

/-- What stands in the file of a service that imports an entity. -/
def serviceBytes : List UInt8 := "../domain/u".toList.map fun c => .ofNat c.toNat

/-- The source directory of a project with the service and the entity. -/
def serviceAndEntity : Entry :=
  .directory [("application", .directory [("s.ts", .file serviceBytes)]),
    ("domain", .directory [("u.ts", .file (.ok []))])]

/-- A file system with that directory. -/
def serviceTree : FileTree := ⟨[("src", serviceAndEntity)]⟩

/-- Takes a text for the one import that it has, if there is any text. -/
def wholeTextImport : Extractor := fun content =>
  .ok ⟨if content = "" then [] else [⟨1, content⟩], [], [], []⟩

/-- The file of the service. -/
def serviceFile : SourceFile :=
  ⟨⟨"/src/application/s.ts"⟩, "../domain/u", ⟨[⟨1, "../domain/u"⟩], [], [], []⟩⟩

/-- The file of the entity. -/
def entityFile : SourceFile := ⟨⟨"/src/domain/u.ts"⟩, "", ⟨[], [], [], []⟩⟩

/-- A run that does not read texts for annotations. -/
def serviceRun : Analysis :=
  ⟨⟨"/src"⟩, ⟨false, .console, false, false⟩,
    ⟨.default, .default, [("type-quality", ⟨some false⟩)]⟩⟩

/-- The source directory is found at the root of the run. -/
theorem find_src : serviceTree.find ⟨"/src"⟩ = .ok serviceAndEntity :=
  FileTree.find_of_at? ["src"] (by decide) (by decide) rfl (by simp [serviceAndEntity])
    (by decide)

/-- The file of the service is read with its one import. -/
theorem load_serviceFile :
    SourceFile.load wholeTextImport serviceTree serviceFile.path = .ok serviceFile := by
  have hfind : serviceTree.find serviceFile.path = .ok (.file serviceBytes) :=
    FileTree.find_of_at? ["src", "application", "s.ts"] (by decide) (by decide) rfl
      (by simp) (by decide)
  have hdecode : Text.decodeUtf8 serviceBytes = .ok "../domain/u" := by decide
  rw [SourceFile.load, FileTree.read, hfind]
  change SourceFile.ofBytes wholeTextImport serviceFile.path serviceBytes = _
  rw [SourceFile.ofBytes, hdecode]
  rfl

/-- The file of the entity is read without imports. -/
theorem load_entityFile :
    SourceFile.load wholeTextImport serviceTree entityFile.path = .ok entityFile := by
  have hfind : serviceTree.find entityFile.path = .ok (.file (.ok [])) :=
    FileTree.find_of_at? ["src", "domain", "u.ts"] (by decide) (by decide) rfl (by simp)
      (by decide)
  rw [SourceFile.load, FileTree.read, hfind]
  rfl

/-- Both files are collected, that of the service first. -/
theorem collect_serviceTree : serviceRun.collector.collect serviceTree serviceRun.root =
    [serviceFile.path, entityFile.path] := by
  have hplaces : serviceRun.collector.places serviceTree serviceRun.root =
      [["application", "s.ts"], ["domain", "u.ts"]] := by
    rw [Collector.places, show serviceTree.find serviceRun.root = _ from find_src]
    simp only [serviceAndEntity, Collector.placesAt_directory]
    rw [byName_eq_self (by decide)]
    simp only [List.flatMap_cons, Collector.placesUnder, Collector.placesAt_directory]
    rw [byName_singleton, byName_singleton]
    simp only [List.flatMap_cons, Collector.placesUnder, Collector.placesAt]
    decide
  rw [Collector.collect_eq_filter_walk _ (by decide), Collector.walk_eq_map_places, hplaces]
  decide

/-- Both files are parsed. -/
theorem loadedFiles_serviceTree :
    Session.loadedFiles (SourceFile.load wholeTextImport serviceTree)
      [serviceFile.path, entityFile.path] = [serviceFile, entityFile] := by
  simp [Session.loadedFiles, load_serviceFile, load_entityFile, Except.toOption]

/-- The run finds nothing. -/
theorem violations_serviceRun :
    (serviceRun.result wholeTextImport serviceTree).report.violations = [] := by
  have hfailures : [serviceFile.path, entityFile.path].flatMap
      (failureFindings (SourceFile.load wholeTextImport serviceTree)) = [] := by
    simp [failureFindings, load_serviceFile, load_entityFile]
  have hfound : serviceRun.found (SourceFile.load wholeTextImport serviceTree)
      [serviceFile.path, entityFile.path] = [] := by
    rw [found, loadedFiles_serviceTree, hfailures]
    decide
  rw [report_result (by decide), collect_serviceTree, hfound]
  rfl

/-- A service that imports an entity is a chain of imports in a run that finds nothing. -/
theorem layers_never_move_outward_serviceTree :
    let r := serviceRun.result wholeTextImport serviceTree
    let c := serviceRun.classifier
    (serviceRun.run wholeTextImport serviceTree = .ok r ∧
      serviceRun.enables .layerDependency = true ∧
      ∀ v ∈ r.report.violations, v.code ≠ .layerViolation ∧ v.code ≠ .parseError) ∧
      ((∀ f ∈ [serviceFile, entityFile], f ∈ r.parsed.cache.files ∧ c.Ranks f) ∧
        [serviceFile, entityFile].IsChain SourceFile.Imports) ∧
      c.rank entityFile ≤ c.rank serviceFile := by
  intro r c
  have hrun : serviceRun.run wholeTextImport serviceTree = .ok r := by
    refine run_eq_ok_iff.mpr ⟨?_, rfl⟩
    have hroot : serviceTree.find serviceRun.root = _ := find_src
    rw [fault?, FileTree.holds, FileTree.isDirectory, hroot]
    rfl
  have henabled : serviceRun.enables .layerDependency = true := by decide
  have hclean : ∀ v ∈ r.report.violations, v.code ≠ .layerViolation ∧ v.code ≠ .parseError := by
    rw [violations_serviceRun]
    exact fun v hv => absurd hv List.not_mem_nil
  have hfiles : r.parsed.cache.files = [serviceFile, entityFile] := by
    have hparsed : r.parsed.cache.files = _ := (parsed_result _ _ (by decide)).1
    rw [hparsed, collect_serviceTree, loadedFiles_serviceTree]
  have hchain : ∀ f ∈ [serviceFile, entityFile], f ∈ r.parsed.cache.files ∧ c.Ranks f := by
    intro f hf
    rw [hfiles]
    refine ⟨hf, ?_⟩
    rcases List.mem_cons.mp hf with rfl | hf
    · exact ⟨.application, by decide, by decide⟩
    · rw [List.mem_singleton.mp hf]
      exact ⟨.domain, by decide, by decide⟩
  have himports : [serviceFile, entityFile].IsChain SourceFile.Imports := by
    refine List.isChain_cons_cons.mpr ⟨⟨⟨1, "../domain/u"⟩, List.mem_cons_self, ?_⟩,
      List.isChain_singleton _⟩
    exact ⟨by decide, Or.inl (by decide)⟩
  have hpairwise := ((layers_never_move_outward hrun henabled hclean).2 _ hchain himports).1
  exact ⟨⟨hrun, henabled, hclean⟩, ⟨hchain, himports⟩,
    (List.pairwise_cons.mp hpairwise).1 entityFile List.mem_cons_self⟩

end TwoFiles

end Analysis

end LayerAudit
