import LayerAudit.Proofs.Analysis.Report
import LayerAudit.Proofs.Collector.Walk

/-!
# What settings change in a report

Settings name directories to leave out and rules to switch off. Main statement: the report under any
settings is the report without settings, less the violations in files below a directory that is left
out and those with a code of a rule that is switched off. Nothing else changes, neither the order of
what is left nor how often it is stated, and the counters count what is left.

The files are left out on the walk already. Each finding is about one file, so this is to leave out
what is found about them.
-/

namespace LayerAudit

namespace Config

/-- Whether settings leave a file in, by how it is shown: none of its directories is left out. -/
def keepsFile (c : Config) (file : String) : Bool :=
  Collector.avoids c.analyzer.exclude (Path.directoriesOf file)

/-- Whether settings leave a code in: it belongs to no rule that is switched off. -/
def keepsCode (c : Config) (code : Code) : Bool :=
  Rule.all.all fun r => c.isRuleEnabled r.name || !r.codes.contains code

/-- Whether settings leave a violation in. -/
def keeps (c : Config) (v : Violation) : Bool := c.keepsFile v.file && c.keepsCode v.code

end Config

/-- What settings leave of a report, with the number of files that they leave in. -/
def Report.restrict (r : Report) (c : Config) (files : Nat) : Report :=
  let errors := r.errors.filter c.keeps
  let warnings := r.warnings.filter c.keeps
  let info := r.info.filter c.keeps
  ⟨errors, warnings, info, ⟨files, errors.length + warnings.length + info.length⟩⟩

/-- A bucket of a restricted report keeps those violations that the settings keep. -/
theorem Report.bucket_restrict (r : Report) (c : Config) (files : Nat) (severity : Severity) :
    (r.restrict c files).bucket severity = (r.bucket severity).filter c.keeps := by
  cases severity <;> rfl

namespace Config

/-- The code of a rule is left in exactly if the rule is not switched off. -/
theorem keepsCode_of_mem_codes {c : Config} {r : Rule} {code : Code} (h : code ∈ r.codes) :
    c.keepsCode code = c.isRuleEnabled r.name := by
  rw [keepsCode, Bool.eq_iff_iff, List.all_eq_true]
  constructor
  · intro hall
    simpa [h] using hall r r.mem_all
  · intro henabled s _
    by_cases hs : code ∈ s.codes
    · rw [Rule.eq_of_mem_codes hs h, henabled, Bool.true_or]
    · simp [hs]

/-- Failures to parse are always left in. -/
theorem keepsCode_parseError (c : Config) : c.keepsCode .parseError = true := by
  rw [keepsCode, List.all_eq_true]
  intro r _
  simp [r.parseError_not_mem_codes]

end Config

namespace Analysis

/-- The run without settings. -/
def plain (a : Analysis) : Analysis := { a with config := .default }

variable {a : Analysis} {extract : Extractor} {tree : FileTree}

/-- Of all that is found, settings leave what is found by the rules that they leave. -/
theorem filter_found_code (load : Path → Except LoadFault SourceFile) (paths : List Path) :
    (a.plain.found load paths).filter (fun f => a.config.keepsCode f.code) = a.found load paths := by
  have hfailures (f : Finding) (hf : f ∈ paths.flatMap (failureFindings load)) :
      a.config.keepsCode f.code = true := by
    obtain ⟨path, -, hpath⟩ := List.mem_flatMap.mp hf
    rw [(mem_failureFindings hpath).2, Config.keepsCode_parseError]
  have hrules : (a.plain.ruleFindings (Session.loadedFiles load paths)).filter
        (fun f => a.config.keepsCode f.code) =
      a.ruleFindings (Session.loadedFiles load paths) := by
    have hplain : a.plain.rules = Rule.all := rfl
    rw [ruleFindings, ruleFindings, hplain]
    refine filter_flatMap_eq fun r _ => filter_eq_ite fun f hf => ?_
    obtain ⟨file, -, habout⟩ := Rule.exists_isAbout_of_mem_findings hf
    exact Config.keepsCode_of_mem_codes habout.2
  rw [found, List.filter_append, List.filter_eq_self.mpr hfailures, hrules]
  rfl

/-- What is collected is what is collected without settings, less the files that are left out. -/
theorem collect_eq_filter (htree : tree.wellNamed = true) :
    a.collector.collect tree a.root =
      (a.plain.collector.collect tree a.root).filter fun p =>
        a.config.keepsFile (p.relativeTo a.root) := by
  have hplain : a.plain.collector = .ofExtensions extensions := by
    simp [collector, plain, Collector.skipping, Config.default, AnalyzerConfig.default]
  rw [hplain]
  exact Collector.collect_skipping _ _ htree _

/-- The report of a result is the one without settings, restricted to what the settings leave. -/
theorem report_eq_restrict (htree : tree.wellNamed = true) :
    (a.result extract tree).report = (a.plain.result extract tree).report.restrict a.config
      ((a.plain.result extract tree).files.filter fun p =>
        a.config.keepsFile (p.relativeTo a.root)).length := by
  let keep (p : Path) : Bool := a.config.keepsFile (p.relativeTo a.root)
  let load := SourceFile.load extract tree
  have hfound : a.found load (a.collector.collect tree a.root) =
      (a.plain.found load (a.plain.collector.collect tree a.root)).filter fun f =>
        keep f.file && a.config.keepsCode f.code := by
    rw [collect_eq_filter htree, ← filter_found_file SourceFile.path_of_load, ← filter_found_code,
      List.filter_filter]
  have hbucket (severity : Severity) : (a.result extract tree).report.bucket severity =
      ((a.plain.result extract tree).report.bucket severity).filter a.config.keeps := by
    rw [bucket_report_result htree, bucket_report_result htree, List.filter_map, hfound,
      Store.ofSeverity, Store.ofSeverity, List.filter_filter, List.filter_filter]
    refine congrArg _ (List.filter_congr fun f _ => Bool.and_comm _ _)
  refine Report.ext_bucket (fun severity => ?_) ?_
  · rw [hbucket, Report.bucket_restrict]
  · have hfiles : (a.result extract tree).files = _ := collect_eq_filter htree
    have htotal : (a.result extract tree).report.stats.totalViolations =
        ((a.result extract tree).report.bucket .error).length +
          ((a.result extract tree).report.bucket .warning).length +
          ((a.result extract tree).report.bucket .info).length := totalViolations_report_result htree
    rw [stats_report_result htree, hbucket, hbucket, hbucket] at htotal
    rw [stats_report_result htree, hfiles]
    exact congrArg (Stats.mk _) htotal

/-- A run reports what the run without settings reports, less what its settings leave out; it starts
exactly if that one does. -/
theorem run_eq_restrict_plain (a : Analysis) (extract : Extractor) (htree : tree.wellNamed = true) :
    (a.run extract tree).map Result.report =
      (a.plain.run extract tree).map fun r => r.report.restrict a.config
        (r.files.filter fun p => a.config.keepsFile (p.relativeTo a.root)).length := by
  have hfault : a.plain.fault? tree = a.fault? tree := rfl
  unfold run
  rw [hfault]
  cases a.fault? tree with
  | some fault => rfl
  | none => exact congrArg Except.ok (report_eq_restrict htree)

/-- Settings that leave out a directory and switch off a rule leave in the other files and codes. -/
theorem run_eq_restrict_plain_legacy :
    let tree : FileTree :=
      ⟨[("src", .directory [("legacy", .directory [("old.ts", .file (.ok []))]), ("new.ts", .file (.ok []))])]⟩
    let extract : Extractor := fun _ => .ok ⟨[], [], [⟨"UserRepository", 1, false, [], []⟩], []⟩
    let config : Config := ⟨⟨⟨"src"⟩, ["legacy"]⟩, .default, [("type-quality", ⟨some false⟩)]⟩
    let a : Analysis := ⟨⟨"/src"⟩, ⟨false, .console, false, false⟩, config⟩
    (tree.wellNamed = true ∧ config.keepsFile "legacy/old.ts" = false ∧
      config.keepsFile "new.ts" = true ∧ config.keepsCode .anyType = false ∧
      config.keepsCode .repositoryDi = true) ∧
      (a.run extract tree).map Result.report =
        (a.plain.run extract tree).map fun r => r.report.restrict config
          (r.files.filter fun p => config.keepsFile (p.relativeTo a.root)).length := by
  intro tree extract config a
  have htree : tree.wellNamed = true := by decide
  exact ⟨⟨htree, by decide, by decide, by decide, by decide⟩,
    run_eq_restrict_plain a extract htree⟩

end Analysis

end LayerAudit
