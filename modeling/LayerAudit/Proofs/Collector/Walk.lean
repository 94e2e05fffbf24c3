import LayerAudit.Collector
import LayerAudit.Proofs.FileTree.Names
import LayerAudit.Proofs.Path.Descent
import Mathlib.Data.List.Basic

/-!
# Walks over a file tree

A walk is described here by places, which are the names that lead down from where it starts, and not
by paths: which places it comes to depends on the tree alone, and the paths are written by going down
from the root. In a tree that is well named the places are met in their order, so that sorting the
paths afterwards changes nothing.

Main statement: not to enter some directories is to leave out, among all that is collected, what is
shown to lie in one of them.
-/

namespace LayerAudit.Collector

/-- What lies below entries is met entry by entry, in the order of their names. -/
theorem inOrder_map {α β : Type} (entries : List (String × α)) (below : String × α → List β) :
    inOrder (entries.map fun e => (e.1, below e)) = (byName entries).flatMap below := by
  rw [inOrder, ← map_byName, List.flatMap_map]

mutual

/-- The places of the regular files at an entry and below it. -/
def placesAt (c : Collector) : Entry → List (List String)
  | .file _ => [[]]
  | .directory entries => inOrder (placesBelow c entries)
  | .link _ => []

/-- The places of the regular files at the entries of a directory, entry by entry. -/
def placesBelow (c : Collector) : List (String × Entry) → List (String × List (List String))
  | [] => []
  | (name, entry) :: rest =>
    let places :=
      if entry.isDirectory && c.skips name then [] else (placesAt c entry).map (name :: ·)
    (name, places) :: placesBelow c rest

end

/-- The regular files at one entry of a directory. -/
def filesUnder (c : Collector) (path : Path) (e : String × Entry) : List Path :=
  if e.2.isDirectory && c.skips e.1 then [] else c.filesAt (path.join ⟨e.1⟩) e.2

/-- The places of the regular files at one entry of a directory. -/
def placesUnder (c : Collector) (e : String × Entry) : List (List String) :=
  if e.2.isDirectory && c.skips e.1 then [] else (c.placesAt e.2).map (e.1 :: ·)

/-- The places that a walk from a root comes to. -/
def places (c : Collector) (tree : FileTree) (root : Path) : List (List String) :=
  match tree.find root with
  | .ok e => if !e.isDirectory && tree.isLink root then [] else c.placesAt e
  | .error _ => []

/-- Whether no directory on the way has one of some names. -/
def avoids (names directories : List String) : Bool := directories.all fun d => !names.contains d

variable {c : Collector}

/-- The places at a directory are those under its entries, in the order of their names. -/
theorem placesAt_directory (c : Collector) (entries : List (String × Entry)) :
    c.placesAt (.directory entries) = (byName entries).flatMap c.placesUnder := by
  have hbelow : c.placesBelow entries = entries.map fun e => (e.1, c.placesUnder e) := by
    induction entries with
    | nil => rw [placesBelow, List.map_nil]
    | cons e rest ih => rw [placesBelow, ih, List.map_cons, placesUnder]
  rw [placesAt, hbelow, inOrder_map]

/-- The files at a directory are those under its entries, in the order of their names. -/
theorem filesAt_directory (c : Collector) (path : Path) (entries : List (String × Entry)) :
    c.filesAt path (.directory entries) = (byName entries).flatMap (c.filesUnder path) := by
  have hbelow : c.filesBelow path entries = entries.map fun e => (e.1, c.filesUnder path e) := by
    induction entries with
    | nil => rw [filesBelow, List.map_nil]
    | cons e rest ih => rw [filesBelow, ih, List.map_cons, filesUnder]
  rw [filesAt, hbelow, inOrder_map]

/-- The files of a walk are what lies at its places. -/
theorem filesAt_eq_map_placesAt (c : Collector) (path : Path) (e : Entry) :
    c.filesAt path e = (c.placesAt e).map path.descend := by
  induction e generalizing path with
  | file content => simp [filesAt, placesAt, Path.descend]
  | link target => simp [filesAt, placesAt]
  | directory entries ih =>
    rw [filesAt_directory, placesAt_directory, List.map_flatMap]
    refine List.flatMap_congr fun e he => ?_
    simp only [filesUnder, placesUnder]
    split
    · rfl
    · rw [ih e (mem_byName.mp he), List.map_map]
      rfl

/-- The paths of a walk go down from the root by its places. -/
theorem walk_eq_map_places (c : Collector) (tree : FileTree) (root : Path) :
    c.walk tree root = (c.places tree root).map root.descend := by
  unfold walk places
  cases hfind : tree.find root with
  | error fault => rfl
  | ok e =>
    cases e with
    | directory entries => exact filesAt_eq_map_placesAt c root _
    | file content => by_cases hlink : tree.isLink root = true <;>
        simp [hlink, filesAt_eq_map_placesAt, Entry.isDirectory]
    | link target => by_cases hlink : tree.isLink root = true <;>
        simp [hlink, filesAt_eq_map_placesAt, Entry.isDirectory]

/-- The names on the way to a place are those of the tree. -/
theorem isInner_of_mem_placesAt {e : Entry} (he : e.wellNamed = true) {place : List String}
    (hplace : place ∈ c.placesAt e) : ∀ n ∈ place, (Component.name n).IsInner := by
  induction e generalizing place with
  | file content =>
    rw [placesAt, List.mem_singleton] at hplace
    exact hplace ▸ fun _ hn => absurd hn List.not_mem_nil
  | link target =>
    rw [placesAt] at hplace
    exact absurd hplace List.not_mem_nil
  | directory entries ih =>
    rw [placesAt_directory] at hplace
    obtain ⟨e, hmem, hunder⟩ := List.mem_flatMap.mp hplace
    have hentry := mem_byName.mp hmem
    obtain ⟨hname, hbelow⟩ := (Entry.wellNamed_directory_iff.mp he).2 e hentry
    unfold placesUnder at hunder
    split at hunder
    · exact absurd hunder List.not_mem_nil
    · obtain ⟨rest, hrest, rfl⟩ := List.mem_map.mp hunder
      intro n hn
      rcases List.mem_cons.mp hn with rfl | hn
      · exact hname
      · exact ih e hentry hbelow hrest n hn

/-- The places of a walk are met in their order. -/
theorem pairwise_placesAt (c : Collector) {e : Entry} (he : e.wellNamed = true) :
    (c.placesAt e).Pairwise Path.NamesBefore := by
  induction e with
  | file content =>
    rw [placesAt]
    exact List.pairwise_singleton _ _
  | link target =>
    rw [placesAt]
    exact List.Pairwise.nil
  | directory entries ih =>
    obtain ⟨hnodup, hentries⟩ := Entry.wellNamed_directory_iff.mp he
    rw [placesAt_directory, List.pairwise_flatMap]
    constructor
    · intro e hmem
      have hentry := mem_byName.mp hmem
      unfold placesUnder
      split
      · exact List.Pairwise.nil
      · rw [List.pairwise_map]
        exact (ih e hentry (hentries e hentry).2).imp Path.namesBefore_cons.mpr
    · -- what lies at different entries is told apart by the first name
      have hfirst {e : String × Entry} {place : List String} (h : place ∈ c.placesUnder e) :
          ∃ rest, place = e.1 :: rest := by
        unfold placesUnder at h
        split at h
        · exact absurd h List.not_mem_nil
        · obtain ⟨rest, -, rfl⟩ := List.mem_map.mp h
          exact ⟨rest, rfl⟩
      refine (pairwise_byName hnodup).imp fun hlt as has bs hbs => ?_
      obtain ⟨as, rfl⟩ := hfirst has
      obtain ⟨bs, rfl⟩ := hfirst hbs
      exact Path.namesBefore_of_lt hlt as bs

/-- What lies below a directory has a name there. -/
theorem ne_nil_of_mem_placesAt {e : Entry} (he : e.isDirectory = true) {place : List String}
    (hplace : place ∈ c.placesAt e) : place ≠ [] := by
  cases e with
  | file content => contradiction
  | link target => contradiction
  | directory entries =>
    rw [placesAt_directory] at hplace
    obtain ⟨e, -, hunder⟩ := List.mem_flatMap.mp hplace
    unfold placesUnder at hunder
    split at hunder
    · exact absurd hunder List.not_mem_nil
    · obtain ⟨rest, -, rfl⟩ := List.mem_map.mp hunder
      exact List.cons_ne_nil _ _

/-- Below a directory, its name is avoided with all that lies there or not at all. -/
theorem filter_avoids_map_cons (name : String) (names : List String) {places : List (List String)}
    (h : ∀ place ∈ places, place ≠ []) :
    (places.map (name :: ·)).filter (fun place => avoids names place.dropLast) =
      if names.contains name then []
      else (places.filter fun place => avoids names place.dropLast).map (name :: ·) := by
  have hhead (place : List String) (hplace : place ∈ places) :
      avoids names (name :: place).dropLast =
        (!names.contains name && avoids names place.dropLast) := by
    rw [List.dropLast_cons_of_ne_nil (h place hplace)]
    rfl
  rw [List.filter_map]
  split
  next hname =>
    rw [List.map_eq_nil_iff, List.filter_eq_nil_iff]
    intro place hplace
    rw [Function.comp_apply, hhead place hplace, hname]
    exact Bool.false_ne_true
  next hname =>
    refine congrArg _ (List.filter_congr fun place hplace => ?_)
    rw [Function.comp_apply, hhead place hplace, (Bool.not_eq_true _).mp hname]
    rfl

/-- What is below an entry that is not entered is left out. -/
theorem placesUnder_skipping (c : Collector) (names : List String) (e : String × Entry)
    (ih : (c.skipping names).placesAt e.2 =
      (c.placesAt e.2).filter fun place => avoids names place.dropLast) :
    (c.skipping names).placesUnder e =
      (c.placesUnder e).filter fun place => avoids names place.dropLast := by
  obtain ⟨name, entry⟩ := e
  cases entry with
  | file content => simp [placesUnder, placesAt, Entry.isDirectory, avoids]
  | link target => simp [placesUnder, placesAt]
  | directory entries =>
    have hskips : (c.skipping names).skips name = (c.skips name || names.contains name) := by
      simp [skips, skipping]
    have hfilter := filter_avoids_map_cons name names fun place hplace =>
      ne_nil_of_mem_placesAt (c := c) (e := .directory entries) rfl hplace
    have hunder (d : Collector) : d.placesUnder (name, .directory entries) =
        if d.skips name then [] else (d.placesAt (.directory entries)).map (name :: ·) := rfl
    rw [hunder, hunder, hskips]
    cases c.skips name with
    | true => rfl
    | false =>
      rw [Bool.false_or, ih]
      exact hfilter.symm

/-- Not to enter directories of some names leaves out the places that lie in one of them. -/
theorem placesAt_skipping (c : Collector) (names : List String) (e : Entry) :
    (c.skipping names).placesAt e =
      (c.placesAt e).filter fun place => avoids names place.dropLast := by
  induction e with
  | file content => simp [placesAt, avoids]
  | link target => simp [placesAt]
  | directory entries ih =>
    rw [placesAt_directory, placesAt_directory, List.filter_flatMap]
    exact List.flatMap_congr fun e he =>
      placesUnder_skipping c names e (ih e (mem_byName.mp he))

section Places

variable {tree : FileTree} {root : Path}

/-- What a walk comes to is what lies at and below the entry that the root leads to, if it comes to
anything. -/
theorem places_cases (c : Collector) (tree : FileTree) (root : Path) :
    c.places tree root = [] ∨
      ∃ e, tree.find root = .ok e ∧ c.places tree root = c.placesAt e := by
  unfold places
  split
  next e hfind =>
    split
    · exact Or.inl rfl
    · exact Or.inr ⟨e, hfind, rfl⟩
  next => exact Or.inl rfl

/-- From the empty path no walk comes to anything. -/
theorem text_ne_of_mem_places {place : List String} (h : place ∈ c.places tree root) :
    root.text ≠ "" := by
  rintro hempty
  obtain rfl : root = ⟨""⟩ := congrArg Path.mk hempty
  rw [places, FileTree.find_empty] at h
  exact absurd h List.not_mem_nil

/-- The names that a walk goes down by are those of the tree. -/
theorem isInner_of_mem_places (htree : tree.wellNamed = true) {place : List String}
    (h : place ∈ c.places tree root) : ∀ n ∈ place, (Component.name n).IsInner := by
  rcases places_cases c tree root with hnil | ⟨e, hfind, heq⟩
  · rw [hnil] at h
    exact absurd h List.not_mem_nil
  · rw [heq] at h
    exact isInner_of_mem_placesAt (FileTree.wellNamed_find htree hfind) h

/-- The places that a walk comes to are met in their order. -/
theorem pairwise_places (c : Collector) (htree : tree.wellNamed = true) (root : Path) :
    (c.places tree root).Pairwise Path.NamesBefore := by
  rcases places_cases c tree root with hnil | ⟨e, hfind, heq⟩
  · rw [hnil]
    exact List.Pairwise.nil
  · rw [heq]
    exact pairwise_placesAt c (FileTree.wellNamed_find htree hfind)

/-- Not to enter some directories leaves out the places that lie in one of them. -/
theorem places_skipping (c : Collector) (names : List String) (tree : FileTree) (root : Path) :
    (c.skipping names).places tree root =
      (c.places tree root).filter fun place => avoids names place.dropLast := by
  unfold places
  split
  next e hfind =>
    split
    · rfl
    · exact placesAt_skipping c names e
  next => rfl

/-- The files of a walk are met in the order of their paths. -/
theorem pairwise_walk (c : Collector) (htree : tree.wellNamed = true) (root : Path) :
    (c.walk tree root).Pairwise Path.Before := by
  rw [walk_eq_map_places, List.pairwise_map]
  refine (pairwise_places c htree root).imp_of_mem fun has hbs h => ?_
  exact Path.before_descend (text_ne_of_mem_places has) (isInner_of_mem_places htree has)
    (isInner_of_mem_places htree hbs) h

/-- What is collected is met in that order, too, so that it is not moved any more. -/
theorem collect_eq_filter_walk (c : Collector) (htree : tree.wellNamed = true) (root : Path) :
    c.collect tree root = (c.walk tree root).filter c.isSource := by
  refine List.mergeSort_of_pairwise (((pairwise_walk c htree root).filter _).imp fun h => ?_)
  rw [show Path.compare _ _ = .lt from h]
  rfl

/-- What is collected stands in the order of the paths. -/
theorem pairwise_collect (c : Collector) (htree : tree.wellNamed = true) (root : Path) :
    (c.collect tree root).Pairwise Path.Before := by
  rw [collect_eq_filter_walk c htree root]
  exact (pairwise_walk c htree root).filter _

/-- Not to enter directories of some names is to leave out what is shown to lie in one of them. -/
theorem collect_skipping (c : Collector) (names : List String) (htree : tree.wellNamed = true)
    (root : Path) :
    (c.skipping names).collect tree root =
      (c.collect tree root).filter fun p =>
        avoids names (Path.directoriesOf (p.relativeTo root)) := by
  rw [collect_eq_filter_walk _ htree, collect_eq_filter_walk _ htree, walk_eq_map_places,
    walk_eq_map_places, places_skipping, List.filter_filter]
  have hshown (place : List String) (hplace : place ∈ c.places tree root) :
      avoids names (Path.directoriesOf ((root.descend place).relativeTo root)) =
        avoids names place.dropLast := by
    rw [Path.directoriesOf_relativeTo_descend (text_ne_of_mem_places hplace)
      (isInner_of_mem_places htree hplace)]
  rw [List.filter_map, List.filter_map, List.filter_filter]
  refine congrArg _ (List.filter_congr fun place hplace => ?_)
  rw [Function.comp_apply, Function.comp_apply, hshown place hplace, Bool.and_comm]
  rfl

end Places

end LayerAudit.Collector
