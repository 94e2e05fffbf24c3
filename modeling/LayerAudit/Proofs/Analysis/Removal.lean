import LayerAudit.Proofs.Analysis.Report
import LayerAudit.Proofs.Collector.Coverage
import LayerAudit.Proofs.FileTree.Removal
import Mathlib.Data.List.Sort

/-!
# What a run reports when files go

Main statement: taking files below the source root out of a file system takes out of each list of a
report the violations in these files, and leaves the others as they are and in their order. So what is
reported of the other files does not depend on what these files hold or whether they are there at
all.

The run collects the files that are left, and reads each of them as before. What the rules state is
about one file each, so what they state of the files that are left is what they stated of them among
all files.
-/

namespace LayerAudit

variable {tree : FileTree} {gone : List String → Bool}

namespace Collector

variable {c : Collector} {root : Path} {base : List String} {entries : List (String × Entry)}

/-- What is collected in what is left: the files that were collected and are left. -/
theorem mem_collect_without_iff (htree : tree.wellNamed = true) (hroot : tree.resolve root = .ok base)
    (hbase : tree.at? base = some (.directory entries)) {p : Path} :
    p ∈ c.collect (tree.without gone) root ↔
      p ∈ c.collect tree root ∧ (tree.without gone).isFile p = true := by
  obtain ⟨left, hbaseLeft⟩ : ∃ left, (tree.without gone).at? base = some (.directory left) :=
    FileTree.exists_at?_without_directory htree hbase
  have hrootLeft : (tree.without gone).resolve root = .ok base :=
    FileTree.resolve_without htree hroot fun content hfile => by simp [hbase] at hfile
  rw [mem_collect_iff (FileTree.wellNamed_without htree) hrootLeft hbaseLeft,
    mem_collect_iff htree hroot hbase]
  constructor
  · rintro ⟨directories, name, content, rfl, hat, hasked⟩
    have hwas := ((FileTree.at?_without_file_iff htree).mp hat).1
    have hinner : ∀ n ∈ directories ++ [name], (Component.name n).IsInner := fun n hn =>
      FileTree.isInner_of_at? htree hwas n (List.mem_append_right _ hn)
    exact ⟨⟨directories, name, content, rfl, hwas, hasked⟩, FileTree.isFile_iff.mpr
      ⟨content, FileTree.find_descend hrootLeft hinner hat fun _ => Entry.noConfusion⟩⟩
  · rintro ⟨⟨directories, name, content, rfl, hat, hasked⟩, hfile⟩
    obtain ⟨kept, hfind⟩ := FileTree.isFile_iff.mp hfile
    obtain ⟨place, hplace, hwas, hstays⟩ := (FileTree.find_without_eq_file_iff htree).mp hfind
    have hinner : ∀ n ∈ directories ++ [name], (Component.name n).IsInner := fun n hn =>
      FileTree.isInner_of_at? htree hat n (List.mem_append_right _ hn)
    have hthere := FileTree.resolve_descend hroot hinner hat fun _ => Entry.noConfusion
    obtain rfl : base ++ (directories ++ [name]) = place :=
      Except.ok.inj (hthere.symm.trans hplace)
    exact ⟨directories, name, kept, rfl,
      (FileTree.at?_without_file_iff htree).mpr ⟨hwas, hstays⟩, hasked⟩

/-- The files that are left are collected in the order in which they were. -/
theorem collect_without (c : Collector) (htree : tree.wellNamed = true)
    (hroot : tree.resolve root = .ok base) (hbase : tree.at? base = some (.directory entries)) :
    c.collect (tree.without gone) root =
      (c.collect tree root).filter ((tree.without gone).isFile ·) := by
  refine List.Pairwise.eq_of_mem_iff (r := Path.Before) ?_ ?_ fun p => ?_
  · exact pairwise_collect c (FileTree.wellNamed_without htree) root
  · exact (pairwise_collect c htree root).filter _
  · rw [mem_collect_without_iff htree hroot hbase, List.mem_filter]

end Collector

namespace Analysis

variable {a : Analysis} {extract : Extractor}

/-- The violations of one severity that a run reports. -/
def violationsOf (a : Analysis) (extract : Extractor) (tree : FileTree) (severity : Severity) :
    Except AnalysisFault (List Violation) :=
  (a.run extract tree).map fun r => r.report.bucket severity

/-- Whether the file that a violation is in is there. -/
def hasFileOf (a : Analysis) (tree : FileTree) (v : Violation) : Bool :=
  tree.isFile (a.root.join ⟨v.file⟩)

/-- Whether and why a run does not start does not depend on files below the root. -/
theorem fault?_without (htree : tree.wellNamed = true)
    (hgone : ∀ place, gone place = true → ¬tree.resolve a.root = .ok place) :
    a.fault? (tree.without gone) = a.fault? tree := by
  cases hfind : tree.find a.root with
  | error fault =>
    cases hleft : (tree.without gone).find a.root with
    | error other => simp [fault?, FileTree.holds, hfind, hleft, Except.isOk, Except.toBool]
    | ok left =>
      obtain ⟨place, e, hplace, hat, -⟩ := (FileTree.find_without_eq_ok_iff htree).mp hleft
      have hok := FileTree.find_eq_ok_iff.mpr ⟨place, hplace, hat⟩
      rw [hfind] at hok
      contradiction
  | ok e =>
    obtain ⟨place, hplace, hat⟩ := FileTree.find_eq_ok_iff.mp hfind
    have hstays : (e.isFile && gone place) = false := by
      cases hplaceGone : gone place with
      | false => exact Bool.and_false _
      | true => exact absurd hplace (hgone place hplaceGone)
    have hleft := (FileTree.find_without_eq_ok_iff htree).mpr ⟨place, e, hplace, hat, hstays, rfl⟩
    have hdirectory (gone : List String → Bool) : (e.without gone).isDirectory = e.isDirectory := by
      cases e with
      | file content => rw [Entry.without_file]
      | link target => rw [Entry.without_link]
      | directory entries => rw [Entry.without_directory]; rfl
    simp [fault?, FileTree.holds, FileTree.isDirectory, hfind, hleft, hdirectory, Except.isOk,
      Except.toBool, Except.toOption]

/-- What is found in the files that are left is what was found in them among all files. -/
theorem found_without {base : List String} {entries : List (String × Entry)}
    (htree : tree.wellNamed = true) (hroot : tree.resolve a.root = .ok base)
    (hbase : tree.at? base = some (.directory entries)) :
    a.found (SourceFile.load extract (tree.without gone))
        (a.collector.collect (tree.without gone) a.root) =
      (a.found (SourceFile.load extract tree) (a.collector.collect tree a.root)).filter
        fun f => (tree.without gone).isFile f.file := by
  rw [filter_found_file SourceFile.path_of_load,
    ← Collector.collect_without _ htree hroot hbase]
  refine found_congr fun p hp => ?_
  obtain ⟨-, hfile⟩ := (Collector.mem_collect_without_iff htree hroot hbase).mp hp
  rw [SourceFile.load, SourceFile.load, FileTree.read_without htree hfile]

/-- Each list of the report loses the violations in the files that are taken out. -/
theorem bucket_without {base : List String} {entries : List (String × Entry)}
    (htree : tree.wellNamed = true) (hroot : tree.resolve a.root = .ok base)
    (hbase : tree.at? base = some (.directory entries)) (severity : Severity) :
    (a.result extract (tree.without gone)).report.bucket severity =
      ((a.result extract tree).report.bucket severity).filter (a.hasFileOf (tree.without gone)) := by
  rw [bucket_report_result (FileTree.wellNamed_without htree), bucket_report_result htree,
    found_without htree hroot hbase, List.filter_map, Store.ofSeverity, Store.ofSeverity,
    List.filter_comm]
  refine congrArg _ (List.filter_congr fun f hf => ?_)
  have hcollected : f.file ∈ a.collector.collect tree a.root :=
    file_mem_of_mem_found SourceFile.path_of_load (List.mem_filter.mp hf).1
  have hshown : a.root.join ⟨f.file.relativeTo a.root⟩ = f.file :=
    Collector.join_relativeTo_of_mem_collect htree hroot hbase hcollected
  exact congrArg (tree.without gone).isFile hshown.symm

/-- A run without some files below the root reports what the run with them reports, less the
violations in these files. -/
theorem violationsOf_without (htree : tree.wellNamed = true)
    (hgone : ∀ place, gone place = true → tree.IsBelow a.root place) (severity : Severity) :
    a.violationsOf extract (tree.without gone) severity =
      (a.violationsOf extract tree severity).map (List.filter (a.hasFileOf (tree.without gone))) := by
  have hfault : a.fault? (tree.without gone) = a.fault? tree :=
    fault?_without htree fun place hplace hroot =>
      FileTree.not_isBelow_of_resolve hroot (hgone place hplace)
  unfold violationsOf run
  rw [hfault]
  cases hstarts : a.fault? tree with
  | some fault => rfl
  | none =>
    obtain ⟨base, entries, hroot, hbase⟩ := fault?_eq_none_iff.mp hstarts
    exact congrArg Except.ok (bucket_without htree hroot hbase severity)

/-- If files below the root are taken out, each list of the report loses the violations in these files
and nothing else. So whatever these files hold, and whether they are there or not, the same is
reported of the others. -/
theorem reports_other_files_alike (a : Analysis) (extract : Extractor) {tree : FileTree}
    (htree : tree.wellNamed = true) {gone : List String → Bool}
    (hgone : ∀ place, gone place = true → tree.IsBelow a.root place) :
    let left := tree.without gone
    (∀ severity, a.violationsOf extract left severity =
      (a.violationsOf extract tree severity).map (List.filter (a.hasFileOf left))) ∧
    ∀ other : FileTree, other.wellNamed = true → other.without gone = left → ∀ severity,
      (a.violationsOf extract other severity).map (List.filter (a.hasFileOf left)) =
        (a.violationsOf extract tree severity).map (List.filter (a.hasFileOf left)) := by
  intro left
  refine ⟨violationsOf_without htree hgone, fun other hother hsame severity => ?_⟩
  have hgoneOther (place : List String) (h : gone place = true) : other.IsBelow a.root place :=
    (hgone place h).of_without_eq htree hother hsame hgone
  have hfromOther : a.violationsOf extract (other.without gone) severity =
      (a.violationsOf extract other severity).map (List.filter (a.hasFileOf (other.without gone))) :=
    violationsOf_without hother hgoneOther severity
  rw [hsame] at hfromOther
  exact hfromOther.symm.trans (violationsOf_without htree hgone severity)

/-- A file is taken out, or is no text any more, or cannot be read any more, and the same is reported of the
file beside it. -/
theorem reports_other_files_alike_broken :
    let sources (content : Content) : FileTree :=
      ⟨[("src", .directory [("Other.ts", .file content), ("User.ts", .file (.ok []))])]⟩
    let gone (place : List String) : Bool := decide (place = ["src", "Other.ts"])
    let extract : Extractor := fun _ => .ok ⟨[], [], [⟨"UserRepository", 1, false, [], []⟩], []⟩
    let a : Analysis := ⟨⟨"/src"⟩, ⟨false, .console, false, false⟩, .default⟩
    let left := (sources (.ok [])).without gone
    ((sources (.ok [])).wellNamed = true ∧
        ∀ place, gone place = true → (sources (.ok [])).IsBelow a.root place) ∧
      ∀ severity,
        a.violationsOf extract left severity =
          (a.violationsOf extract (sources (.ok [])) severity).map (List.filter (a.hasFileOf left)) ∧
        (a.violationsOf extract (sources (.ok [255])) severity).map (List.filter (a.hasFileOf left)) =
          (a.violationsOf extract (sources (.ok [])) severity).map (List.filter (a.hasFileOf left)) ∧
        (a.violationsOf extract (sources (.error .denied)) severity).map
            (List.filter (a.hasFileOf left)) =
          (a.violationsOf extract (sources (.ok [])) severity).map (List.filter (a.hasFileOf left)) := by
  intro sources gone extract a left
  have hnamed : (sources (.ok [])).wellNamed = true := by decide
  have hway : (sources (.ok [])).Leads FileTree.maxLinks [] ["", "src"] ["src"] :=
    .stay rfl (Or.inl rfl) (.down (by decide) rfl (fun _ => Entry.noConfusion) .arrived)
  have hpieces : FileTree.pieces a.root = ["", "src"] := by decide
  have hroot : (sources (.ok [])).resolve a.root = .ok ["src"] :=
    FileTree.resolve_eq_ok_iff.mpr ⟨by decide, hpieces ▸ hway⟩
  have hgone (place : List String) (h : gone place = true) : (sources (.ok [])).IsBelow a.root place :=
    ⟨["src"], "Other.ts", [], hroot, of_decide_eq_true h⟩
  obtain ⟨htaken, hother⟩ := reports_other_files_alike a extract hnamed hgone
  exact ⟨⟨hnamed, hgone⟩, fun severity => ⟨htaken severity,
    hother (sources (.ok [255])) (by decide) rfl severity,
    hother (sources (.error .denied)) (by decide) rfl severity⟩⟩

end Analysis

end LayerAudit
