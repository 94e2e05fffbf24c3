import LayerAudit.Analysis.Basic
import LayerAudit.Proofs.Cache.Attempts
import LayerAudit.Proofs.Collector.Walk
import LayerAudit.Proofs.FileTree.Ways
import LayerAudit.Proofs.Rule.Blocks

/-!
# What the report of a run is made of

A run that starts comes to a result, whose report has the failures to parse and then the findings of
the enabled rules about the files that were parsed. In a tree that is well named the files are parsed
in the order in which they were collected, so that all of this can be read off the collected files.
-/

namespace LayerAudit.Analysis

variable {a : Analysis} {extract : Extractor} {tree : FileTree}

/-- A run comes to its result exactly if nothing keeps it from starting. -/
theorem run_eq_ok_iff {r : Result} :
    a.run extract tree = .ok r ↔ a.fault? tree = none ∧ r = a.result extract tree := by
  unfold run
  split
  next fault hfault => simp [hfault]
  next hnone => simp [hnone, eq_comm]

/-- A run starts exactly from a directory. -/
theorem fault?_eq_none_iff_isDirectory :
    a.fault? tree = none ↔ tree.isDirectory a.root = true := by
  unfold fault? FileTree.holds FileTree.isDirectory
  cases tree.find a.root with
  | error fault => simp [Except.isOk, Except.toBool, Except.toOption]
  | ok e => cases e <;> simp [Except.isOk, Except.toBool, Except.toOption, Entry.isDirectory]

/-- A run starts exactly if its root leads to a place where a directory is. -/
theorem fault?_eq_none_iff :
    a.fault? tree = none ↔ ∃ base entries, tree.resolve a.root = .ok base ∧
      tree.at? base = some (.directory entries) := by
  rw [fault?_eq_none_iff_isDirectory, FileTree.isDirectory_iff, exists_comm]
  simp only [FileTree.find_eq_ok_iff]

/-- What the enabled rules find in files, rule by rule. -/
def ruleFindings (a : Analysis) (files : List SourceFile) : List Finding :=
  a.rules.flatMap fun r => r.findings a.classifier files

/-- Checking the enabled rules records what they find. -/
theorem check_eq_recordAll (a : Analysis) (parsed : Session) :
    a.check parsed a.rules = parsed.store.recordAll (a.ruleFindings parsed.cache.files) :=
  Rule.checkAll_eq_recordAll a.classifier parsed.cache parsed.store a.rules

/-- The session of a run tells what was read of the collected files. -/
theorem faithful_parsed (a : Analysis) (extract : Extractor) (tree : FileTree) :
    (a.result extract tree).parsed.Faithful (SourceFile.load extract tree)
      ((Store.empty a.root).setFilesScanned (a.result extract tree).files.length) :=
  (Session.faithful_start _ _).parseAll SourceFile.path_of_load _

/-- A violation for each failure and each finding of an enabled rule stands in the report. -/
theorem exists_violation_of_finding {f : Finding}
    (h : f ∈ (a.result extract tree).parsed.cache.failed.flatMap
          (failureFindings (SourceFile.load extract tree)) ∨
      ∃ r, a.enables r = true ∧
        f ∈ r.findings a.classifier (a.result extract tree).parsed.cache.files) :
    ∃ v ∈ (a.result extract tree).report.violations, v.code = f.code := by
  have hreport : (a.result extract tree).report =
      ((a.result extract tree).parsed.store.recordAll
        (a.ruleFindings (a.result extract tree).parsed.cache.files)).report :=
    congrArg Store.report (a.check_eq_recordAll _)
  rw [hreport, (a.faithful_parsed extract tree).recorded, ← Store.recordAll_append]
  refine ⟨_, Store.mem_violations_recordAll_iff.mpr (Or.inr ⟨f, ?_, rfl⟩), rfl⟩
  rcases h with hfailure | ⟨r, henabled, hfinding⟩
  · exact List.mem_append_left _ hfailure
  · have hr : r ∈ a.rules := List.mem_filter.mpr ⟨r.mem_all, henabled⟩
    exact List.mem_append_right _ (List.mem_flatMap.mpr ⟨r, hr, hfinding⟩)

/-- The files of a run are parsed in the order in which they are collected. -/
theorem parsed_result (a : Analysis) (extract : Extractor) (htree : tree.wellNamed = true) :
    (a.result extract tree).parsed.cache.files =
        Session.loadedFiles (SourceFile.load extract tree) (a.collector.collect tree a.root) ∧
      (a.result extract tree).parsed.store =
        ((Store.empty a.root).setFilesScanned (a.collector.collect tree a.root).length).recordAll
          ((a.collector.collect tree a.root).flatMap
            (failureFindings (SourceFile.load extract tree))) :=
  Session.parseAll_of_ascending SourceFile.path_of_load (a.collector.pairwise_collect htree a.root)
    fun _ _ => Cache.precedes_empty _

/-- All that a run finds if it collects given files. -/
def found (a : Analysis) (load : Path → Except LoadFault SourceFile) (paths : List Path) :
    List Finding :=
  paths.flatMap (failureFindings load) ++ a.ruleFindings (Session.loadedFiles load paths)

/-- All that is found is about the files that were collected. -/
theorem file_mem_of_mem_found {load : Path → Except LoadFault SourceFile}
    (hload : ∀ {path file}, load path = .ok file → file.path = path) {paths : List Path}
    {f : Finding} (h : f ∈ a.found load paths) : f.file ∈ paths := by
  rcases List.mem_append.mp h with hfailure | hrule
  · obtain ⟨path, hpath, hf⟩ := List.mem_flatMap.mp hfailure
    rwa [(mem_failureFindings hf).1]
  · obtain ⟨r, -, hf⟩ := List.mem_flatMap.mp hrule
    obtain ⟨file, hfile, habout⟩ := Rule.exists_isAbout_of_mem_findings hf
    obtain ⟨path, hpath, hloaded⟩ := Session.mem_loadedFiles.mp hfile
    rwa [habout.1, hload hloaded]

/-- Only what can be read of the collected files matters. -/
theorem found_congr {load other : Path → Except LoadFault SourceFile} {paths : List Path}
    (h : ∀ p ∈ paths, load p = other p) : a.found load paths = a.found other paths := by
  have hfailures : paths.flatMap (failureFindings load) = paths.flatMap (failureFindings other) :=
    List.flatMap_congr fun p hp => by rw [failureFindings, failureFindings, h p hp]
  have hfiles : Session.loadedFiles load paths = Session.loadedFiles other paths :=
    List.filterMap_congr fun p hp => by rw [h p hp]
  rw [found, found, hfailures, hfiles]

/-- Files that are left out take what is found about them with them, and nothing else. -/
theorem filter_found_file {load : Path → Except LoadFault SourceFile}
    (hload : ∀ {path file}, load path = .ok file → file.path = path) (paths : List Path)
    (keep : Path → Bool) :
    (a.found load paths).filter (fun f => keep f.file) = a.found load (paths.filter keep) := by
  have hfailures : (paths.flatMap (failureFindings load)).filter (fun f => keep f.file) =
      (paths.filter keep).flatMap (failureFindings load) :=
    filter_flatMap_eq fun path _ => filter_eq_ite fun f hf =>
      congrArg keep (mem_failureFindings hf).1
  have hrules : (a.ruleFindings (Session.loadedFiles load paths)).filter (fun f => keep f.file) =
      a.ruleFindings (Session.loadedFiles load (paths.filter keep)) := by
    rw [ruleFindings, ruleFindings, List.filter_flatMap, Session.loadedFiles_filter hload]
    exact List.flatMap_congr fun r _ => Rule.filter_findings _ _ r keep
  rw [found, List.filter_append, hfailures, hrules]
  rfl

/-- The report of a run records all that it finds in what it collects. -/
theorem report_result (htree : tree.wellNamed = true) :
    (a.result extract tree).report =
      (((Store.empty a.root).setFilesScanned (a.collector.collect tree a.root).length).recordAll
        (a.found (SourceFile.load extract tree) (a.collector.collect tree a.root))).report := by
  obtain ⟨hfiles, hstore⟩ := parsed_result a extract htree
  have hreport : (a.result extract tree).report =
      ((a.result extract tree).parsed.store.recordAll
        (a.ruleFindings (a.result extract tree).parsed.cache.files)).report :=
    congrArg Store.report (a.check_eq_recordAll _)
  rw [hreport, hfiles, hstore, ← Store.recordAll_append]
  rfl

/-- A bucket of the report has the violations of its severity that the run finds. -/
theorem bucket_report_result (htree : tree.wellNamed = true) (severity : Severity) :
    (a.result extract tree).report.bucket severity =
      (Store.ofSeverity severity (a.found (SourceFile.load extract tree)
        (a.collector.collect tree a.root))).map ((Store.empty a.root).violation severity) := by
  rw [report_result htree, Store.bucket_recordAll]
  cases severity <;> rfl

/-- All that a run finds in what it collects in a file system. -/
def findings (a : Analysis) (extract : Extractor) (tree : FileTree) : List Finding :=
  a.found (SourceFile.load extract tree) (a.collector.collect tree a.root)

/-- The report has the violations that the findings are recorded as. -/
theorem violations_report_result (htree : tree.wellNamed = true) :
    (a.result extract tree).report.violations =
      (Store.empty a.root).violationsFor (a.findings extract tree) := by
  have hbucket (severity : Severity) : (a.result extract tree).report.bucket severity = _ :=
    bucket_report_result htree severity
  change (a.result extract tree).report.bucket .error ++
    (a.result extract tree).report.bucket .warning ++ (a.result extract tree).report.bucket .info = _
  rw [hbucket, hbucket, hbucket]
  rfl

/-- The counters of the report are the numbers of files and of findings. -/
theorem stats_report_result (htree : tree.wellNamed = true) :
    (a.result extract tree).report.stats =
      ⟨(a.result extract tree).files.length, (a.findings extract tree).length⟩ := by
  rw [report_result htree, Store.stats_recordAll]
  change Stats.mk _ (0 + _) = _
  rw [Nat.zero_add]
  rfl

/-- The counter of violations is the number of violations in all three lists. -/
theorem totalViolations_report_result (htree : tree.wellNamed = true) :
    let report := (a.result extract tree).report
    report.stats.totalViolations =
      report.errors.length + report.warnings.length + report.info.length := by
  intro report
  rw [stats_report_result htree, ← Store.length_violationsFor (.empty a.root),
    ← violations_report_result htree, Report.violations, List.length_append, List.length_append]

end LayerAudit.Analysis
