import LayerAudit.Proofs.Analysis.OneFile
import LayerAudit.Proofs.Facts.Lines
import LayerAudit.Proofs.Rule.Places

/-!
# Where violations come from

Main statement: a violation of a run tells where it comes from. It stands in the list of its code's
severity, its file leads back to a file that was collected, and its line, if it has one, is that of
a declaration or an import in this file. Of some codes a file has one violation at most.

That a line is one of the text holds as far as the parser places the nodes of its trees in the text.
-/

namespace LayerAudit.Analysis

variable {a : Analysis} {extract : Extractor} {tree : FileTree}

/-- What a run finds has no line if its code is that of a whole file, and else the line of an import or
a declaration in the file that it names, as it was read. -/
theorem line_of_mem_findings {f : Finding} (h : f ∈ a.findings extract tree) :
    (f.line = none ↔ f.code ∈ Code.wholeFile) ∧
      ∀ line ∈ f.line, ∃ file, SourceFile.load extract tree f.file = .ok file ∧
        ∃ s ∈ file.facts.subjects, s.line = line := by
  rcases List.mem_append.mp h with hfailure | hrule
  · obtain ⟨p, -, hp⟩ := List.mem_flatMap.mp hfailure
    have hline := line_of_mem_failureFindings hp
    rw [hline, (mem_failureFindings hp).2]
    exact ⟨by decide, fun _ hnone => nomatch hnone⟩
  · obtain ⟨r, -, hr⟩ := List.mem_flatMap.mp hrule
    obtain ⟨file, hfile, hpath, hwhole, hsubject⟩ := Rule.exists_source_of_mem_findings hr
    obtain ⟨p, -, hload⟩ := Session.mem_loadedFiles.mp hfile
    have heq : f.file = p := hpath.trans (SourceFile.path_of_load hload)
    exact ⟨hwhole, fun line hline => ⟨file, heq ▸ hload, hsubject line hline⟩⟩

/-- Of what the enabled rules find, what has a code of one rule is found by that rule. -/
theorem filter_ruleFindings_sublist (a : Analysis) (files : List SourceFile) (r : Rule) :
    List.Sublist ((a.ruleFindings files).filter fun f => decide (f.code ∈ r.codes))
      (r.findings a.classifier files) := by
  have hall : (Rule.all.flatMap fun s => s.findings a.classifier files).filter
      (fun f => decide (f.code ∈ r.codes)) = r.findings a.classifier files := by
    have hcount : Rule.all.count r = 1 := by cases r <;> decide
    rw [filter_flatMap_eq_replicate (a := r) fun s _ f hf => ?_, hcount,
      List.replicate_one, List.flatten_singleton]
    obtain ⟨file, -, habout⟩ := Rule.exists_isAbout_of_mem_findings hf
    exact decide_eq_decide.mpr ⟨Rule.eq_of_mem_codes habout.2, fun hs => hs ▸ habout.2⟩
  rw [← hall]
  exact (List.filter_sublist.flatMap _).filter _

/-- Of some codes of one rule no more is found than that rule finds. -/
theorem length_filter_ruleFindings_le {r : Rule} {codes : List Code}
    (hcodes : ∀ code ∈ codes, code ∈ r.codes) (files : List SourceFile) :
    ((a.ruleFindings files).filter fun f => decide (f.code ∈ codes)).length ≤
      ((r.findings a.classifier files).filter fun f => decide (f.code ∈ codes)).length := by
  have htwice : (a.ruleFindings files).filter (fun f => decide (f.code ∈ codes)) =
      ((a.ruleFindings files).filter fun f => decide (f.code ∈ r.codes)).filter
        fun f => decide (f.code ∈ codes) := by
    rw [List.filter_filter]
    refine List.filter_congr fun f _ => ?_
    by_cases hf : f.code ∈ codes
    · simp [hf, hcodes _ hf]
    · simp [hf]
  rw [htwice]
  exact ((a.filter_ruleFindings_sublist files r).filter _).length_le

/-- Codes of which a file has one violation at most: that it cannot be parsed, that it is not named after
its interface or has several, and that it has annotations that say nothing. -/
def onceCodes : List (List Code) :=
  [[.parseError], [.fileNaming, .multipleInterfaces], [.anyType]]

/-- Of some codes one finding at most is found in a file. -/
theorem length_filter_found_le_one {load : Path → Except LoadFault SourceFile} {codes : List Code}
    (hcodes : codes ∈ onceCodes) (p : Path) :
    ((a.found load [p]).filter fun f => decide (f.code ∈ codes)).length ≤ 1 := by
  cases hload : load p with
  | error fault =>
    rw [found_of_load_eq_error hload]
    exact List.length_filter_le _ _
  | ok file =>
    rw [found_of_load_eq_ok hload]
    rcases List.mem_cons.mp hcodes with rfl | hrules
    · have hnone (f : Finding) (hf : f ∈ a.ruleFindings [file]) : f.code ∉ [Code.parseError] :=
        fun hcode => code_ne_parseError_of_mem_ruleFindings hf (List.mem_singleton.mp hcode)
      rw [List.filter_eq_nil_iff.mpr fun f hf => by simpa using hnone f hf]
      exact Nat.zero_le 1
    · rcases List.mem_pair.mp hrules with rfl | rfl
      · have hrule : Rule.findings a.classifier [file] .interfaceConvention = _ :=
          List.flatMap_singleton _ _
        refine Nat.le_trans
          (length_filter_ruleFindings_le (r := .interfaceConvention) (by decide) _) ?_
        rw [hrule]
        exact Rule.InterfaceConvention.length_filter_le_one file
      · have hrule : Rule.findings a.classifier [file] .typeQuality = _ :=
          List.flatMap_singleton _ _
        refine Nat.le_trans (length_filter_ruleFindings_le (r := .typeQuality) (by decide) _) ?_
        rw [hrule]
        exact Nat.le_trans (List.length_filter_le _ _)
          (Rule.TypeQuality.length_fileFindings_le_one file)

/-- Of some codes a file has one violation at most. -/
theorem length_filter_violationsIn_le_one (htree : tree.wellNamed = true)
    (hstarts : a.fault? tree = none) {codes : List Code} (hcodes : codes ∈ onceCodes)
    (file : String) :
    ((violationsIn (a.result extract tree) file).filter fun v => decide (v.code ∈ codes)).length
      ≤ 1 := by
  by_cases hfile : ∃ p ∈ a.collector.collect tree a.root, p.relativeTo a.root = file
  · obtain ⟨p, hp, rfl⟩ := hfile
    rw [violationsIn_relativeTo extract htree hstarts hp,
      Store.filter_violationsFor _ _ fun _ code => decide (code ∈ codes), Store.length_violationsFor]
    exact length_filter_found_le_one hcodes p
  · have hnone : violationsIn (a.result extract tree) file = [] := by
      refine List.filter_eq_nil_iff.mpr fun v hv hshown => hfile ?_
      rw [violations_report_result htree, Store.mem_violationsFor_iff] at hv
      obtain ⟨f, hf, rfl⟩ := hv
      exact ⟨f.file, file_mem_of_mem_findings hf, of_decide_eq_true hshown⟩
    rw [hnone]
    exact Nat.zero_le 1

/-- Each violation of a run stands in the list of its severity, which is that of its code. Its file leads
from the root to a file that was collected. It has no line if its code is that of a whole file, and
else the line of an import or a declaration in its file, which is a line of the text if the parser
places the tree of the text in it. A file has one violation at most with a code of each group of which
there is one at most, and the violations in the three lists are those that are counted. -/
theorem violations_tell_provenance (a : Analysis) {parse : String → Syntax.Node} {tree : FileTree}
    (htree : tree.wellNamed = true) {r : Result} (hrun : a.run (.ofTrees parse) tree = .ok r) :
    (∀ severity, ∀ v ∈ r.report.bucket severity, v.severity = severity ∧
      v.code.severity = severity) ∧
    (∀ v ∈ r.report.violations, a.root.join ⟨v.file⟩ ∈ r.files ∧
      (v.line = none ↔ v.code ∈ Code.wholeFile) ∧
      ∀ line ∈ v.line, ∃ file,
        SourceFile.load (.ofTrees parse) tree (a.root.join ⟨v.file⟩) = .ok file ∧
        (∃ s ∈ file.facts.subjects, s.line = line) ∧ 1 ≤ line ∧
        ((parse file.content).RowsWithin file.content →
          line ≤ file.content.toList.count '\n' + 1)) ∧
    (∀ file, ∀ codes ∈ onceCodes,
      ((violationsIn r file).filter fun v => decide (v.code ∈ codes)).length ≤ 1) ∧
    r.report.stats.totalViolations =
      r.report.errors.length + r.report.warnings.length + r.report.info.length := by
  obtain ⟨hstarts, rfl⟩ := run_eq_ok_iff.mp hrun
  refine ⟨fun severity v hv => ?_, fun v hv => ?_, fun file codes hcodes => ?_, ?_⟩
  · rw [bucket_report_result htree] at hv
    obtain ⟨f, hf, rfl⟩ := List.mem_map.mp hv
    exact ⟨rfl, of_decide_eq_true (List.mem_filter.mp hf).2⟩
  · rw [violations_report_result htree, Store.mem_violationsFor_iff] at hv
    obtain ⟨f, hf, rfl⟩ := hv
    have hshown : a.root.join ⟨f.file.relativeTo a.root⟩ = f.file :=
      join_relativeTo_of_mem_findings htree hstarts hf
    change a.root.join ⟨f.file.relativeTo a.root⟩ ∈ _ ∧ (f.line = none ↔ _) ∧ ∀ line ∈ f.line,
      ∃ file, SourceFile.load _ tree (a.root.join ⟨f.file.relativeTo a.root⟩) = _ ∧ _
    rw [hshown]
    obtain ⟨hwhole, hsubject⟩ := line_of_mem_findings hf
    refine ⟨file_mem_of_mem_findings hf, hwhole, fun line hline => ?_⟩
    obtain ⟨file, hload, s, hs, rfl⟩ := hsubject line hline
    refine ⟨file, hload, ⟨s, hs, rfl⟩, ?_⟩
    rw [SourceFile.facts_of_load hload] at hs
    exact ⟨Syntax.Node.one_le_line_of_mem_subjects hs,
      fun hrows => hrows.line_le_of_mem_subjects hs⟩
  · exact length_filter_violationsIn_le_one htree hstarts hcodes file
  · exact totalViolations_report_result htree

section OneClass

open Syntax

/-- The text of a class without a constructor. -/
def repositoryText : String := "class UserRepository {}"

/-- A token of that text by the bytes that it takes. -/
def repositoryToken (kind : String) (start stop : Nat) : Node :=
  .mk ⟨kind, false, .sound, false, [], 0, start, stop⟩ []

/-- The tree of that text. -/
def repositoryNode : Node :=
  .mk ⟨"program", true, .sound, false, [], 0, 0, 23⟩
    [.mk ⟨"class_declaration", true, .sound, false, [], 0, 0, 23⟩
      [repositoryToken "class" 0 5,
        .mk ⟨"type_identifier", true, .sound, false, [.name], 0, 6, 20⟩ [],
        .mk ⟨"class_body", true, .sound, false, [.body], 0, 21, 23⟩
          [repositoryToken "\x7b" 21 22, repositoryToken "\x7d" 22 23]]]

/-- A parser that knows that tree and takes every other text for empty. -/
def repositoryParser (source : String) : Node :=
  if source = repositoryText then repositoryNode
  else .mk ⟨"program", true, .sound, false, [], 0, 0, 0⟩ []

/-- A file system with the class in a source directory. -/
def repositoryTree : FileTree :=
  ⟨[("src", .directory [("UserRepository.ts",
    .file (.ok (repositoryText.toList.map fun c => .ofNat c.toNat)))])]⟩

/-- The file of the class. -/
def repositoryFile : SourceFile :=
  ⟨⟨"/src/UserRepository.ts"⟩, repositoryText, ⟨[], [], [⟨"UserRepository", 1, false, [], []⟩], []⟩⟩

/-- A run from the source directory that does not read texts for annotations. -/
def repositoryRun : Analysis := ⟨⟨"/src"⟩, ⟨false, .console, false, false⟩,
    ⟨.default, .default, [("type-quality", ⟨some false⟩)]⟩⟩

/-- The root of the run lies at the source directory. -/
theorem resolve_repositoryRoot : repositoryTree.resolve repositoryRun.root = .ok ["src"] :=
  FileTree.resolve_of_at? ["src"] (by decide) (by decide) rfl (by simp) (by decide)

/-- The file is read with the one class in it. -/
theorem load_repositoryFile : SourceFile.load (.ofTrees repositoryParser) repositoryTree
    repositoryFile.path = .ok repositoryFile := by
  have hpath : Path.descend repositoryRun.root ["UserRepository.ts"] = repositoryFile.path := by
    decide
  have hread : repositoryTree.read repositoryFile.path =
      .ok (repositoryText.toList.map fun c => .ofNat c.toNat) := by
    have hname : ∀ n ∈ ["UserRepository.ts"], (Component.name n).IsInner := by decide
    rw [← hpath]
    exact FileTree.read_descend resolve_repositoryRoot hname rfl
  exact SourceFile.load_eq_ok_iff.mpr ⟨_, _, _, hread, by decide +kernel, by decide +kernel, rfl⟩

/-- The file of the class is collected. -/
theorem collect_repositoryTree : repositoryRun.collector.collect repositoryTree repositoryRun.root =
    [repositoryFile.path] := by
  have hfind : repositoryTree.find repositoryRun.root = _ :=
    FileTree.find_eq_ok_iff.mpr ⟨["src"], resolve_repositoryRoot, rfl⟩
  have hplaces : repositoryRun.collector.places repositoryTree repositoryRun.root =
      [["UserRepository.ts"]] := by
    rw [Collector.places, hfind]
    simp only [Collector.placesAt_directory]
    rw [byName_singleton]
    simp only [List.flatMap_cons, Collector.placesUnder, Collector.placesAt]
    decide
  rw [Collector.collect_eq_filter_walk _ (by decide), Collector.walk_eq_map_places, hplaces]
  decide

/-- The class lies in the wrong directory and has no constructor. -/
theorem findings_repositoryRun : repositoryRun.findings (.ofTrees repositoryParser) repositoryTree =
    [⟨repositoryFile.path, some 1, .repositoryLocation,
        "Repository implementation 'UserRepository' should live in infrastructure/repositories"⟩,
      ⟨repositoryFile.path, some 1, .repositoryDi,
        "Repository 'UserRepository' should receive its dependencies through a constructor"⟩] := by
  rw [findings, collect_repositoryTree, found_of_load_eq_ok load_repositoryFile]
  decide +kernel

/-- The run comes to a result. -/
theorem run_repositoryRun : repositoryRun.run (.ofTrees repositoryParser) repositoryTree =
    .ok (repositoryRun.result (.ofTrees repositoryParser) repositoryTree) :=
  run_eq_ok_iff.mpr ⟨fault?_eq_none_iff.mpr ⟨["src"], _, resolve_repositoryRoot, rfl⟩, rfl⟩

/-- A repository that lies in no directory for repositories is reported with the line of its class,
which is the one line of the text. -/
theorem violations_tell_provenance_repository :
    let r := repositoryRun.result (.ofTrees repositoryParser) repositoryTree
    let v : Violation := ⟨.error, "UserRepository.ts", some 1, .repositoryLocation,
      "Repository implementation 'UserRepository' should live in infrastructure/repositories"⟩
    (repositoryTree.wellNamed = true ∧
      repositoryRun.run (.ofTrees repositoryParser) repositoryTree = .ok r) ∧
      v ∈ r.report.violations ∧ repositoryRun.root.join ⟨v.file⟩ ∈ r.files ∧
      (∃ s ∈ repositoryFile.facts.subjects, s.line = 1) ∧
      1 ≤ repositoryText.toList.count '\n' + 1 := by
  intro r v
  have htree : repositoryTree.wellNamed = true := by decide
  have hv : v ∈ r.report.violations := by
    rw [violations_report_result htree, Store.mem_violationsFor_iff, findings_repositoryRun]
    exact ⟨_, List.mem_cons_self, by decide +kernel⟩
  have hrows : (repositoryParser repositoryText).RowsWithin repositoryText := by
    unfold Syntax.Node.RowsWithin
    decide
  have hpath : repositoryRun.root.join ⟨v.file⟩ = repositoryFile.path := by decide
  obtain ⟨-, hsources, -, -⟩ := violations_tell_provenance repositoryRun htree run_repositoryRun
  obtain ⟨hfile, -, hline⟩ := hsources v hv
  obtain ⟨file, hload, hsubject, -, hbound⟩ := hline 1 rfl
  obtain rfl : repositoryFile = file :=
    Except.ok.inj (load_repositoryFile.symm.trans (hpath ▸ hload))
  exact ⟨⟨htree, run_repositoryRun⟩, hv, hfile, hsubject, hbound hrows⟩

end OneClass

end LayerAudit.Analysis
