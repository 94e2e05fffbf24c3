import LayerAudit.Proofs.Cache.Attempts
import LayerAudit.Proofs.Layer.Classification
import LayerAudit.Proofs.Rule.Locality
import Mathlib.Data.List.Forall2

/-!
# The imports that break the order of layers

An import is outward if its file lies in a layer and the import leads to a layer further out. Main
statement: the rule on dependencies records one violation for each occurrence of an outward import,
in the order of the files' paths and of the imports in each file, and nothing else. The files may be
any that attempts have put into the cache, with whatever imports were read from them.
-/

namespace LayerAudit.Rule.LayerDependency

/-- A layer further out: the domain is innermost, and the infrastructure is outermost. -/
def IsFurtherOut (own other : Layer) : Prop :=
  own = .domain ∧ (other = .application ∨ other = .infrastructure) ∨
    own = .application ∧ other = .infrastructure

/-- The imports of files, each with its file, in the order of the files and of their imports. -/
def occurrences (files : List SourceFile) : List (SourceFile × Import) :=
  files.flatMap fun file => file.facts.imports.map fun i => (file, i)

/-- An import that leads from one given layer to another, which is further out. -/
def LeadsOut (root : Path) (o : SourceFile × Import) (own other : Layer) : Prop :=
  LiesIn root o.1.path own ∧ LeadsTo root o.1.path o.2.specifier other ∧ IsFurtherOut own other

/-- An import that leads from a layer to one further out. -/
def IsOutward (root : Path) (o : SourceFile × Import) : Prop :=
  ∃ own other, LeadsOut root o own other

/-- What the rule states of an import, if anything. -/
def finding? (c : Classifier) (o : SourceFile × Import) : Option Finding :=
  (c.layerOfFile o.1.path).bind fun own => importFinding? c o.1 own o.2

/-- The violation that an outward import is recorded as. -/
def Reports (root base : Path) (o : SourceFile × Import) (v : Violation) : Prop :=
  ∃ own other, LeadsOut root o own other ∧
    v = ⟨.error, o.1.path.relativeTo base, some o.2.line, .layerViolation,
      own.segment ++ " layer cannot depend on " ++ other.segment ++ " layer (import '" ++
        o.2.specifier ++ "')"⟩

/-- The rule looks at each occurrence of an import on its own. -/
theorem findings_eq (c : Classifier) (files : List SourceFile) :
    findings c files = (occurrences files).filterMap (finding? c) := by
  induction files with
  | nil => rfl
  | cons file files ih =>
    have hfile : fileFindings c file =
        (file.facts.imports.map fun i => (file, i)).filterMap (finding? c) := by
      rw [fileFindings, List.filterMap_map]
      cases hlayer : c.layerOfFile file.path with
      | none => simp [Function.comp_def, finding?, hlayer]
      | some own => simp [Function.comp_def, finding?, hlayer]
    change fileFindings c file ++ findings c files = _
    rw [ih, hfile, ← List.filterMap_append]
    rfl

/-- What the rule states is stated of an import that leads out of its file's layer. -/
theorem finding?_eq_some_iff {root : Path} {o : SourceFile × Import} {f : Finding} :
    finding? (.ofRoot root) o = some f ↔
      ∃ own other, LeadsOut root o own other ∧
        f = ⟨o.1.path, some o.2.line, .layerViolation,
          own.segment ++ " layer cannot depend on " ++ other.segment ++ " layer (import '" ++
            o.2.specifier ++ "')"⟩ := by
  simp only [finding?, Option.bind_eq_some_iff, Classifier.layerOfFile_eq_some_iff]
  constructor
  · rintro ⟨own, hown, hfinding⟩
    unfold importFinding? at hfinding
    split at hfinding
    · contradiction
    next other hother =>
      split at hfinding
      next hforbids =>
        exact ⟨own, other, ⟨hown, Classifier.layerOfImport_eq_some_iff.mp hother,
          Layer.forbids_iff.mp hforbids⟩, (Option.some.inj hfinding).symm⟩
      next => contradiction
  · rintro ⟨own, other, ⟨hown, hother, hout⟩, rfl⟩
    refine ⟨own, hown, ?_⟩
    rw [importFinding?, Classifier.layerOfImport_eq_some_iff.mpr hother]
    exact if_pos (Layer.forbids_iff.mpr hout)

/-- An import is outward exactly if the rule states something of it. -/
theorem isOutward_iff {root : Path} {o : SourceFile × Import} :
    (finding? (.ofRoot root) o).isSome = true ↔ IsOutward root o := by
  rw [Option.isSome_iff_exists, IsOutward]
  simp only [finding?_eq_some_iff]
  constructor
  · rintro ⟨f, own, other, hout, -⟩
    exact ⟨own, other, hout⟩
  · rintro ⟨own, other, hout⟩
    exact ⟨_, own, other, hout, rfl⟩

instance (root : Path) (o : SourceFile × Import) : Decidable (IsOutward root o) :=
  decidable_of_iff _ isOutward_iff

/-- All that the rule states has the code of a violation of the order. -/
theorem code_of_mem_findings {c : Classifier} {files : List SourceFile} {f : Finding}
    (h : f ∈ findings c files) : f.code = .layerViolation := by
  obtain ⟨file, -, habout⟩ := exists_isAbout_of_mem_findings (r := .layerDependency) h
  exact List.mem_singleton.mp habout.2

/-- What the rule states of files, one by one: the violations of their outward imports. -/
theorem forall₂_reports (root : Path) (s : Store) (files : List SourceFile) :
    List.Forall₂ (Reports root s.root) ((occurrences files).filter (IsOutward root ·))
      ((findings (.ofRoot root) files).map (s.violation .error)) := by
  rw [findings_eq]
  induction occurrences files with
  | nil => exact .nil
  | cons o rest ih =>
    cases hfinding : finding? (.ofRoot root) o with
    | none =>
      have hnot : ¬IsOutward root o := by
        rw [← isOutward_iff, hfinding]
        exact Bool.false_ne_true
      rw [List.filterMap_cons_none hfinding, List.filter_cons_of_neg (by simpa using hnot)]
      exact ih
    | some f =>
      have hout : IsOutward root o := by
        rw [← isOutward_iff, hfinding]
        rfl
      rw [List.filterMap_cons_some hfinding, List.filter_cons_of_pos (by simpa using hout)]
      obtain ⟨own, other, hleads, rfl⟩ := finding?_eq_some_iff.mp hfinding
      exact .cons ⟨own, other, hleads, rfl⟩ ih

/-- The rule on dependencies records exactly the outward imports of the files that were parsed, one
violation for each occurrence, in the order of the paths and of the imports in each file. -/
theorem check_records_outward_imports (root : Path) (extract : Extractor)
    (attempts : List (FileTree × Path)) (before store : Store) :
    let cache := ((Session.start before).parseEach extract attempts).cache
    let after := Rule.check (.ofRoot root) cache store .layerDependency
    cache.Ordered ∧
      ∃ found, List.Forall₂ (Reports root store.root)
          ((occurrences cache.files).filter (IsOutward root ·)) found ∧
        after.report.errors = store.report.errors ++ found ∧
        after.report.warnings = store.report.warnings ∧ after.report.info = store.report.info ∧
        after.report.stats = ⟨store.report.stats.filesScanned,
          store.report.stats.totalViolations + found.length⟩ := by
  intro cache after
  have hseverity : ∀ f ∈ findings (.ofRoot root) cache.files, f.code.severity = .error :=
    fun f hf => congrArg Code.severity (code_of_mem_findings hf)
  have hbucket (severity : Severity) : after.report.bucket severity =
      store.report.bucket severity ++ (if .error = severity then findings (.ofRoot root) cache.files
        else []).map (store.violation severity) := by
    rw [← Store.ofSeverity_of_forall hseverity]
    exact Store.bucket_recordAll store _ severity
  refine ⟨Session.ordered_parseEach (Session.ordered_start before) attempts, _,
    forall₂_reports root store cache.files, hbucket .error, ?_, ?_, ?_⟩
  · exact (hbucket .warning).trans (List.append_nil _)
  · exact (hbucket .info).trans (List.append_nil _)
  · rw [List.length_map]
    exact Store.stats_recordAll store _

end LayerAudit.Rule.LayerDependency
