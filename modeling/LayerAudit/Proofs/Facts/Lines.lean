import LayerAudit.Facts.TypeScript
import LayerAudit.Proofs.Cache.Attempts
import LayerAudit.Proofs.Rule.Topics

/-!
# The lines of facts

Facts are read off syntax trees. What can be said of their lines follows from what can be said of the
rows of a tree's nodes: each import and each declaration starts where some node starts.

The parser that makes the trees is left open here. It is asked only to place every node in the text.
-/

namespace LayerAudit

/-- Reads facts off the trees that a parser makes. -/
def Extractor.ofTrees (parse : String → Syntax.Node) : Extractor :=
  fun source => (parse source).readFacts source

example : Facts.ofTypeScript = Extractor.ofTrees Syntax.TypeScript.tree := rfl

namespace Syntax.Node

variable {source : String} {root : Node}

/-- Whether every node of a tree starts on a row that the text has. -/
def RowsWithin (source : String) (root : Node) : Prop :=
  ∀ n ∈ root.preorder, n.label.row ≤ source.toList.count '\n'

/-- An import has the line of its statement. -/
theorem line_of_import? {n : Node} {i : Import} (h : n.import? source = some i) :
    i.line = n.line := by
  unfold import? at h
  split at h
  · obtain ⟨s, -, rfl⟩ := Option.map_eq_some_iff.mp h
    rfl
  · cases h

/-- A class has the line of its declaration. -/
theorem line_of_class? {n : Node} {k : Class} (h : n.class? source = some k) : k.line = n.line := by
  unfold class? at h
  split at h
  · obtain ⟨name, -, rfl⟩ := Option.map_eq_some_iff.mp h
    rfl
  · cases h

/-- An interface has the line of its declaration. -/
theorem line_of_interface? {n : Node} {i : Interface} (h : n.interface? source = some i) :
    i.line = n.line := by
  unfold interface? at h
  split at h
  · obtain ⟨name, -, rfl⟩ := Option.map_eq_some_iff.mp h
    rfl
  · cases h

/-- Each import and each declaration starts on the line of a node. -/
theorem exists_line_eq_of_mem_subjects {s : Subject} (h : s ∈ (root.facts source).subjects) :
    ∃ n ∈ root.preorder, s.line = n.line := by
  rcases List.mem_append.mp h with hfront | hclass
  · rcases List.mem_append.mp hfront with himport | hinterface
    · obtain ⟨i, hi, rfl⟩ := List.mem_map.mp himport
      obtain ⟨n, hn, hstates⟩ := List.mem_filterMap.mp hi
      exact ⟨n, hn, line_of_import? hstates⟩
    · obtain ⟨i, hi, rfl⟩ := List.mem_map.mp hinterface
      obtain ⟨n, hn, hstates⟩ := List.mem_filterMap.mp hi
      exact ⟨n, hn, line_of_interface? hstates⟩
  · obtain ⟨k, hk, rfl⟩ := List.mem_map.mp hclass
    obtain ⟨n, hn, hstates⟩ := List.mem_filterMap.mp hk
    exact ⟨n, hn, line_of_class? hstates⟩

/-- Lines are counted from one. -/
theorem one_le_line_of_mem_subjects {s : Subject} (h : s ∈ (root.facts source).subjects) :
    1 ≤ s.line := by
  obtain ⟨n, -, hline⟩ := exists_line_eq_of_mem_subjects h
  rw [hline]
  exact Nat.le_add_left 1 _

/-- If the nodes lie in the text, the lines of the facts are lines of the text. -/
theorem RowsWithin.line_le_of_mem_subjects (hrows : root.RowsWithin source) {s : Subject}
    (h : s ∈ (root.facts source).subjects) : s.line ≤ source.toList.count '\n' + 1 := by
  obtain ⟨n, hn, hline⟩ := exists_line_eq_of_mem_subjects h
  rw [hline]
  exact Nat.succ_le_succ (hrows n hn)

/-- Whether the nodes of a tree start on rows in the order in which they are met, outer nodes before
inner ones. -/
def RowsAscend (root : Node) : Prop :=
  root.preorder.Pairwise fun m n => m.label.row ≤ n.label.row

/-- What nodes state comes in the order of lines if the nodes do. -/
theorem RowsAscend.pairwise_line {α : Type} (hrows : root.RowsAscend) {states : Node → Option α}
    {line : α → Nat} (hline : ∀ {n x}, states n = some x → line x = n.line) :
    ((root.preorder.filterMap states).map line).Pairwise (· ≤ ·) := by
  rw [List.pairwise_map, List.pairwise_filterMap]
  refine List.Pairwise.imp (fun hrow x hx y hy => ?_) hrows
  rw [hline hx, hline hy]
  exact Nat.succ_le_succ hrow

end Syntax.Node

/-- Whether the imports, the interfaces and the classes of a file each come in the order of their
lines. -/
def Facts.LinesAscend (f : Facts) : Prop :=
  (f.imports.map Import.line).Pairwise (· ≤ ·) ∧
    (f.interfaces.map Interface.line).Pairwise (· ≤ ·) ∧
    (f.classes.map Class.line).Pairwise (· ≤ ·)

/-- The facts of a tree come in the order of lines if its nodes do. -/
theorem Syntax.Node.RowsAscend.linesAscend {root : Syntax.Node} (hrows : root.RowsAscend)
    (source : String) : (root.facts source).LinesAscend :=
  ⟨hrows.pairwise_line line_of_import?, hrows.pairwise_line line_of_interface?,
    hrows.pairwise_line line_of_class?⟩

/-- The facts of a file that was read are those of the tree of its text. -/
theorem SourceFile.facts_of_load {parse : String → Syntax.Node} {tree : FileTree} {path : Path}
    {file : SourceFile} (h : load (.ofTrees parse) tree path = .ok file) :
    file.facts = (parse file.content).facts file.content := by
  simp only [load, ofBytes, bind_eq_ok_iff, mapError_eq_ok_iff] at h
  obtain ⟨bytes, -, content, -, facts, hfacts, hfile⟩ := h
  rw [← Except.ok.inj hfile]
  change Syntax.Node.readFacts content (parse content) = .ok facts at hfacts
  unfold Syntax.Node.readFacts at hfacts
  split at hfacts
  · cases hfacts
  · exact (Except.ok.inj hfacts).symm

end LayerAudit
