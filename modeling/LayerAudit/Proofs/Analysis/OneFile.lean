import LayerAudit.Proofs.Analysis.Report
import LayerAudit.Proofs.Collector.Coverage
import Mathlib.Data.List.Nodup

/-!
# What a run reports of one file

Files that are collected are shown differently, so the violations in one of them can be told by how the
file is shown. Main statement: these are what the run would find if it collected that file alone. So a
file that cannot be parsed has its failure and nothing else, and a file that can be has what the enabled
rules find in it.
-/

namespace LayerAudit

namespace Collector

variable {c : Collector} {tree : FileTree} {root : Path} {base : List String}
  {entries : List (String × Entry)}

/-- Files that are collected are shown differently. -/
theorem eq_of_relativeTo_eq (htree : tree.wellNamed = true) (hroot : tree.resolve root = .ok base)
    (hbase : tree.at? base = some (.directory entries)) {p q : Path} (hp : p ∈ c.collect tree root)
    (hq : q ∈ c.collect tree root) (h : p.relativeTo root = q.relativeTo root) : p = q := by
  rw [← join_relativeTo_of_mem_collect htree hroot hbase hp, h,
    join_relativeTo_of_mem_collect htree hroot hbase hq]

/-- A collected file is collected once. -/
theorem filter_collect_eq (c : Collector) (htree : tree.wellNamed = true) {p : Path}
    (hp : p ∈ c.collect tree root) :
    (c.collect tree root).filter (fun q => decide (q = p)) = [p] := by
  have hnodup : (c.collect tree root).Nodup := (pairwise_collect c htree root).nodup
  rw [List.filter_eq, List.count_eq_one_of_mem hnodup hp, List.replicate_one]

end Collector

namespace Analysis

/-- The violations that a report has in a file, by how the file is shown. -/
def violationsIn (r : Result) (file : String) : List Violation :=
  r.report.violations.filter fun v => decide (v.file = file)

variable {a : Analysis} {load : Path → Except LoadFault SourceFile}

/-- The enabled rules find nothing where there are no files. -/
theorem ruleFindings_nil (a : Analysis) : a.ruleFindings [] = [] := by
  refine List.flatMap_eq_nil_iff.mpr fun r _ => ?_
  rw [Rule.findings_eq_flatMap_passes]
  exact List.flatMap_eq_nil_iff.mpr fun _ _ => rfl

/-- Of a file that cannot be parsed, the failure is found. -/
theorem found_of_load_eq_error {p : Path} {fault : LoadFault} (h : load p = .error fault) :
    a.found load [p] = [⟨p, none, .parseError, "Failed to parse file: " ++ fault.message⟩] := by
  have hloaded : Session.loadedFiles load [p] = [] := by
    simp [Session.loadedFiles, h, Except.toOption]
  rw [found, hloaded, ruleFindings_nil, List.append_nil, List.flatMap_singleton, failureFindings, h]
  rfl

/-- Of a file that can be parsed, what the enabled rules find in it is found. -/
theorem found_of_load_eq_ok {p : Path} {file : SourceFile} (h : load p = .ok file) :
    a.found load [p] = a.ruleFindings [file] := by
  have hloaded : Session.loadedFiles load [p] = [file] := by
    simp [Session.loadedFiles, h, Except.toOption]
  rw [found, hloaded, List.flatMap_singleton, failureFindings, h, List.nil_append]

/-- No rule states a failure to parse. -/
theorem code_ne_parseError_of_mem_ruleFindings {files : List SourceFile} {f : Finding}
    (h : f ∈ a.ruleFindings files) : f.code ≠ .parseError := by
  obtain ⟨r, -, hr⟩ := List.mem_flatMap.mp h
  obtain ⟨file, -, habout⟩ := Rule.exists_isAbout_of_mem_findings hr
  exact fun hcode => r.parseError_not_mem_codes (hcode ▸ habout.2)

/-- Failures to parse are found as such, and nothing else is. -/
theorem filter_found_parseError (a : Analysis) (load : Path → Except LoadFault SourceFile)
    (paths : List Path) :
    (a.found load paths).filter (fun f => decide (f.code = .parseError)) =
      paths.flatMap (failureFindings load) := by
  have hfailures (f : Finding) (hf : f ∈ paths.flatMap (failureFindings load)) :
      f.code = .parseError := by
    obtain ⟨path, -, hpath⟩ := List.mem_flatMap.mp hf
    exact (mem_failureFindings hpath).2
  have hrules (f : Finding) (hf : f ∈ a.ruleFindings (Session.loadedFiles load paths)) :
      f.code ≠ .parseError := code_ne_parseError_of_mem_ruleFindings hf
  rw [found, List.filter_append, List.filter_eq_self.mpr fun f hf => decide_eq_true (hfailures f hf),
    List.filter_eq_nil_iff.mpr fun f hf => by simpa using hrules f hf, List.append_nil]

section Result

variable {extract : Extractor} {tree : FileTree}

/-- All that is found is about files that are collected. -/
theorem file_mem_of_mem_findings {f : Finding} (h : f ∈ a.findings extract tree) :
    f.file ∈ a.collector.collect tree a.root :=
  file_mem_of_mem_found SourceFile.path_of_load h

/-- How a finding's file is shown leads back to it from the root. -/
theorem join_relativeTo_of_mem_findings (htree : tree.wellNamed = true)
    (hstarts : a.fault? tree = none) {f : Finding} (h : f ∈ a.findings extract tree) :
    a.root.join ⟨f.file.relativeTo a.root⟩ = f.file := by
  obtain ⟨base, entries, hroot, hbase⟩ := fault?_eq_none_iff.mp hstarts
  exact Collector.join_relativeTo_of_mem_collect htree hroot hbase (file_mem_of_mem_findings h)

/-- What is shown as a finding about a collected file is what is found if that file is collected
alone. -/
theorem filter_findings_relativeTo (extract : Extractor) (htree : tree.wellNamed = true)
    (hstarts : a.fault? tree = none) {p : Path} (hp : p ∈ a.collector.collect tree a.root) :
    (a.findings extract tree).filter (fun f =>
        decide (f.file.relativeTo a.root = p.relativeTo a.root)) =
      a.found (SourceFile.load extract tree) [p] := by
  obtain ⟨base, entries, hroot, hbase⟩ := fault?_eq_none_iff.mp hstarts
  have hshown (f : Finding) (hf : f ∈ a.findings extract tree) :
      decide (f.file.relativeTo a.root = p.relativeTo a.root) = decide (f.file = p) :=
    decide_eq_decide.mpr ⟨Collector.eq_of_relativeTo_eq htree hroot hbase
      (file_mem_of_mem_findings hf) hp, fun h => by rw [h]⟩
  rw [List.filter_congr hshown, findings,
    filter_found_file SourceFile.path_of_load _ fun q => decide (q = p),
    Collector.filter_collect_eq _ htree hp]

/-- The violations in a collected file are those of what is found if it is collected alone. -/
theorem violationsIn_relativeTo (extract : Extractor) (htree : tree.wellNamed = true)
    (hstarts : a.fault? tree = none) {p : Path} (hp : p ∈ a.collector.collect tree a.root) :
    violationsIn (a.result extract tree) (p.relativeTo a.root) =
      (Store.empty a.root).violationsFor (a.found (SourceFile.load extract tree) [p]) := by
  rw [violationsIn, violations_report_result htree,
    Store.filter_violationsFor _ _ fun file _ => decide (file = p.relativeTo a.root)]
  exact congrArg _ (filter_findings_relativeTo extract htree hstarts hp)

/-- The violations of failures are those of the failures to parse what is collected. -/
theorem filter_violations_parseError (a : Analysis) (extract : Extractor)
    (htree : tree.wellNamed = true) :
    (a.result extract tree).report.violations.filter (fun v => decide (v.code = .parseError)) =
      (Store.empty a.root).violationsFor ((a.collector.collect tree a.root).flatMap
        (failureFindings (SourceFile.load extract tree))) := by
  rw [violations_report_result htree,
    Store.filter_violationsFor _ _ fun _ code => decide (code = .parseError)]
  exact congrArg _ (filter_found_parseError a _ _)

end Result

end Analysis

end LayerAudit
