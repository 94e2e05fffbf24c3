import LayerAudit.Proofs.Analysis.Removal

/-!
# Files that a run does not look at

A run collects files by their names. So files with other names have no part in its report, wherever
they lie: whether they are there or not, the same is reported.
-/

namespace LayerAudit.Analysis

variable {a : Analysis} {extract : Extractor} {tree : FileTree} {gone : List String → Bool}

/-- Whether no run collects a file at a place. -/
def IsBystander (place : List String) : Prop :=
  ∀ name ∈ place.getLast?, (Collector.ofExtensions extensions).accepts name = false

/-- Without bystanders the same files are collected. -/
theorem collect_without_bystanders {base : List String} {entries : List (String × Entry)}
    (htree : tree.wellNamed = true) (hgone : ∀ place, gone place = true → IsBystander place)
    (hroot : tree.resolve a.root = .ok base) (hbase : tree.at? base = some (.directory entries)) :
    a.collector.collect (tree.without gone) a.root = a.collector.collect tree a.root := by
  rw [Collector.collect_without _ htree hroot hbase]
  refine List.filter_eq_self.mpr fun p hp => ?_
  obtain ⟨directories, name, content, rfl, hat, haccepts, -⟩ :=
    (Collector.mem_collect_iff htree hroot hbase).mp hp
  have hinner : ∀ n ∈ directories ++ [name], (Component.name n).IsInner := fun n hn =>
    FileTree.isInner_of_at? htree hat n (List.mem_append_right _ hn)
  have hplace := FileTree.resolve_descend hroot hinner hat fun _ => Entry.noConfusion
  have hlast : (base ++ (directories ++ [name])).getLast? = some name := by
    rw [← List.append_assoc, List.getLast?_concat]
  have hstays : gone (base ++ (directories ++ [name])) = false := by
    rw [← Bool.not_eq_true]
    intro hplaceGone
    have hnot := hgone _ hplaceGone name hlast
    exact absurd (haccepts.symm.trans hnot) (by decide)
  exact FileTree.isFile_iff.mpr
    ⟨content, (FileTree.find_without_eq_file_iff htree).mpr ⟨_, hplace, hat, hstays⟩⟩

/-- Without bystanders the same is reported. -/
theorem report_without_bystanders (htree : tree.wellNamed = true)
    (hgone : ∀ place, gone place = true → IsBystander place)
    (hroot : tree.isDirectory a.root = true) :
    (a.result extract (tree.without gone)).report = (a.result extract tree).report := by
  obtain ⟨entries, hfind⟩ := FileTree.isDirectory_iff.mp hroot
  obtain ⟨base, hresolve, hbase⟩ := FileTree.find_eq_ok_iff.mp hfind
  have hcollect := collect_without_bystanders htree hgone hresolve hbase
  have hfound : a.found (SourceFile.load extract (tree.without gone))
        (a.collector.collect tree a.root) =
      a.found (SourceFile.load extract tree) (a.collector.collect tree a.root) := by
    refine found_congr fun p hp => ?_
    rw [← hcollect] at hp
    obtain ⟨-, hfile⟩ := (Collector.mem_collect_without_iff htree hresolve hbase).mp hp
    rw [SourceFile.load, SourceFile.load, FileTree.read_without htree hfile]
  rw [report_result (FileTree.wellNamed_without htree), report_result htree, hcollect, hfound]

end LayerAudit.Analysis
