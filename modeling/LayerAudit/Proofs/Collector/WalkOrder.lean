import LayerAudit.Proofs.Collector.Walk
import LayerAudit.Proofs.Text.ByteOrder

/-!
# The order in which a walk meets files

A walk goes through a directory by the bytes of the names in it, and takes all that lies below one of them
before it goes on to the next. A path comes before another one by the first components in which they differ.
This is not the order of the texts of paths: what lies in the directory `a` comes before the file `a.ts` and
before what lies in `a-b`, although a full stop and a hyphen come before a slash.

Main statement: the files that are collected are met in the order of their paths, so that sorting them in the
end leaves all of them where they are. That this holds at every depth is shown with the walk itself; here
both orders are told by bytes, and the walk by what it does with the entries of a directory.
-/

namespace LayerAudit

namespace Component

/-- Whether a component comes before another one. -/
inductive Precedes : Component → Component → Prop where
  /-- Kinds of components have an order of their own, with names last. -/
  | kind {a b : Component} (h : a.rank < b.rank) : Precedes a b
  /-- Names come in the order of their bytes. -/
  | bytes {a b : String} (h : Text.encodeUtf8 a < Text.encodeUtf8 b) : Precedes (name a) (name b)

/-- A component compares as less exactly if it comes before the other one. -/
theorem compare_eq_lt_iff {a b : Component} : Component.compare a b = .lt ↔ a.Precedes b := by
  have hnames {s t : String} : Ord.compare s t = .lt ↔ Text.encodeUtf8 s < Text.encodeUtf8 t :=
    compareOfLessAndEq_eq_lt.trans Text.encodeUtf8_lt_iff.symm
  constructor
  · intro h
    cases a <;> cases b
    case name.name s t => exact .bytes (hnames.mp h)
    all_goals exact .kind (Nat.compare_eq_lt.mp h)
  · intro h
    cases h with
    | bytes h => exact hnames.mpr h
    | kind h =>
      cases a <;> cases b
      case name.name s t => exact absurd h (Nat.lt_irrefl _)
      all_goals exact Nat.compare_eq_lt.mpr h

end Component

namespace Path

/-- Whether a path comes before another one: by the first component in which they differ, or because it ends
where the other one goes on. -/
def Precedes (p q : Path) : Prop := List.Lex Component.Precedes p.components q.components

/-- Components in a row compare as less exactly if the first ones that differ do, or the others go on. -/
theorem compareComponents_eq_lt_iff {as bs : List Component} :
    compareComponents as bs = .lt ↔ List.Lex Component.Precedes as bs := by
  induction as generalizing bs with
  | nil => cases bs <;> simp [compareComponents]
  | cons a as ih =>
    cases bs with
    | nil => simp [compareComponents]
    | cons b bs =>
      rw [compareComponents, Ordering.then_eq_lt, Component.compare_eq_lt_iff, ih,
        List.cons_lex_cons_iff, Std.LawfulEqCmp.compare_eq_iff_eq]

/-- Paths are compared by the bytes of their components. -/
theorem before_iff_precedes {p q : Path} : p.Before q ↔ p.Precedes q := compareComponents_eq_lt_iff

end Path

namespace Collector

/-- Which regular files a walk meets at an entry and below it, in this order. -/
inductive Meets (c : Collector) : Path → Entry → List Path → Prop where
  | file (path : Path) (content : Content) : Meets c path (.file content) [path]
  | link (path target : Path) : Meets c path (.link target) []
  /-- The entries of a directory are siblings, which come by the bytes of their names. What is met at one of
  them is met before the next one; at a directory with a skipped name this is nothing. -/
  | directory {path : Path} {entries siblings : List (String × Entry)}
    (met : String × Entry → List Path) (hperm : siblings.Perm entries)
    (hsorted : siblings.Pairwise fun a b => Text.encodeUtf8 a.1 < Text.encodeUtf8 b.1)
    (hskipped : ∀ e ∈ siblings, e.2.isDirectory = true ∧ c.skips e.1 = true → met e = [])
    (hentered : ∀ e ∈ siblings, ¬(e.2.isDirectory = true ∧ c.skips e.1 = true) →
      Meets c (path.join ⟨e.1⟩) e.2 (met e)) :
    Meets c path (.directory entries) (siblings.flatMap met)

variable {c : Collector} {tree : FileTree}

/-- Where names are those of a file system, a walk meets the files of an entry in one order only. -/
theorem meets_iff {path : Path} {e : Entry} (he : e.wellNamed = true) {met : List Path} :
    c.Meets path e met ↔ met = c.filesAt path e := by
  induction e generalizing path met with
  | file content =>
    rw [filesAt]
    constructor
    · rintro ⟨⟩
      rfl
    · rintro rfl
      exact .file path content
  | link target =>
    rw [filesAt]
    constructor
    · rintro ⟨⟩
      rfl
    · rintro rfl
      exact .link path target
  | directory entries ih =>
    obtain ⟨hnodup, hentries⟩ := Entry.wellNamed_directory_iff.mp he
    rw [filesAt_directory]
    constructor
    · intro h
      cases h with
      | directory met hperm hsorted hskipped hentered =>
        rw [byName_eq_of_perm hperm (hsorted.imp Text.encodeUtf8_lt_iff.mp)]
        apply List.flatMap_congr
        intro e hsibling
        have hentry := hperm.mem_iff.mp hsibling
        rw [filesUnder]
        split
        next hskip => exact hskipped e hsibling (by simpa using hskip)
        next hskip =>
          apply (ih e hentry (hentries e hentry).2).mp
          exact hentered e hsibling (by simpa using hskip)
    · rintro rfl
      apply Meets.directory (c.filesUnder path) (byName_perm entries)
      · exact (pairwise_byName hnodup).imp Text.encodeUtf8_lt_iff.mpr
      · intro e _ hskip
        rw [filesUnder, hskip.1, hskip.2]
        rfl
      · intro e hsibling hskip
        have hentry := mem_byName.mp hsibling
        rw [filesUnder, if_neg (by simpa using hskip)]
        exact (ih e hentry (hentries e hentry).2).mpr rfl

/-- From what a root leads to a walk goes on, unless that is no directory and the root is a link to it. -/
theorem walk_eq_filesAt {root : Path} {e : Entry} (hroot : tree.find root = .ok e)
    (he : e.isDirectory = true ∨ tree.isLink root = false) :
    c.walk tree root = c.filesAt root e := by
  rw [walk, hroot]
  cases e with
  | directory entries => rfl
  | file content => exact if_neg (by simpa [Entry.isDirectory] using he)
  | link target => exact if_neg (by simpa [Entry.isDirectory] using he)

/-- From any root, a walk through a tree with the names of a file system goes through each directory by the
bytes of the names and meets what is collected in the order of the paths, each file once. To sort what was
collected therefore changes nothing. -/
theorem walk_meets_in_path_order (c : Collector) (htree : tree.wellNamed = true) (root : Path) :
    let pushed := (c.walk tree root).filter c.isSource
    (∀ e met, tree.find root = .ok e → (e.isDirectory = true ∨ tree.isLink root = false) →
        (c.Meets root e met ↔ met = c.walk tree root)) ∧
      pushed.Pairwise Path.Precedes ∧ c.collect tree root = pushed := by
  intro pushed
  refine ⟨fun e met hroot he => ?_, ?_, collect_eq_filter_walk c htree root⟩
  · rw [walk_eq_filesAt hroot he]
    exact meets_iff (FileTree.wellNamed_find htree hroot)
  · have hordered := (pairwise_walk c htree root).imp Path.before_iff_precedes.mp
    exact hordered.filter _

/-- Names with a hyphen and a full stop, which come before a slash: the directory of the shortest name comes
first with what lies in it, and last comes the file. -/
theorem walk_meets_in_path_order_short_first :
    let c := ofExtensions [".ts"]
    let siblings : List (String × Entry) := [("a", .directory [("x.ts", .file (.ok []))]),
      ("a-b", .directory [("y.ts", .file (.ok []))]), ("a.ts", .file (.ok [])), ("dist", .directory [])]
    let tree : FileTree := ⟨[("src", .directory siblings.reverse)]⟩
    let pushed := (c.walk tree ⟨"/src"⟩).filter c.isSource
    tree.wellNamed = true ∧ pushed.Pairwise Path.Precedes ∧ c.collect tree ⟨"/src"⟩ = pushed ∧
      pushed = [⟨"/src/a/x.ts"⟩, ⟨"/src/a-b/y.ts"⟩, ⟨"/src/a.ts"⟩] := by
  intro c siblings tree pushed
  have htree : tree.wellNamed = true := by decide
  obtain ⟨-, hordered, hcollect⟩ := walk_meets_in_path_order c htree ⟨"/src"⟩
  have hroot := FileTree.find_of_at? (t := tree) (p := ⟨"/src"⟩) ["src"] (by decide) (by decide) rfl
    (fun _ => Entry.noConfusion) (by decide)
  have hsorted : byName siblings.reverse = siblings :=
    byName_eq_of_perm (List.reverse_perm _).symm (by decide)
  have hone (path : Path) (name : String) :
      c.filesAt path (.directory [(name, .file (.ok []))]) = [path.join ⟨name⟩] := by
    rw [filesAt_directory, byName_singleton]
    rfl
  have hwalk : c.walk tree ⟨"/src"⟩ = [⟨"/src/a/x.ts"⟩, ⟨"/src/a-b/y.ts"⟩, ⟨"/src/a.ts"⟩] := by
    rw [walk_eq_filesAt hroot (Or.inl rfl), filesAt_directory, hsorted]
    simp only [siblings, List.flatMap_cons, filesUnder, hone]
    decide
  refine ⟨htree, hordered, hcollect, ?_⟩
  rw [show pushed = _ from congrArg (List.filter c.isSource) hwalk]
  decide

end Collector

end LayerAudit
