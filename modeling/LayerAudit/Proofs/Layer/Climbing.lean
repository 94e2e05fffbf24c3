import LayerAudit.Proofs.Layer.Spelling
import LayerAudit.Proofs.Path.Descent
import Mathlib.Data.List.Infix

/-!
# How far an import climbs

A relative import is resolved piece by piece from the directory of its file, and on its way it may lead
above the source root. How far it leads is counted in levels, which are negative above the root.

A walk from the root only meets the names above it that it climbs to. Main statement: if an import never
leads further above the root than some names that are shared by two roots, it has the same layer from
both. The layer can be told from the shared names and from the way below the root.
-/

namespace LayerAudit

namespace Place

/-- The place as it is seen from a start further up. The names between the two starts are given with
the last one first; every climb above the old start takes one of them. -/
def under (p : Place) (above : List String) : Place :=
  ⟨p.names ++ above.drop p.climbs, p.climbs - above.length⟩

/-- One step leads to the same place from both starts. -/
theorem step_under (p : Place) (above : List String) (c : Component) :
    (p.under above).step c = (p.step c).under above := by
  obtain ⟨names, climbs⟩ := p
  cases c with
  | root | current | name => rfl
  | parent =>
    cases names with
    | cons last before => rfl
    | nil =>
      -- the step climbs above the old start, to one of the names there or above them all
      cases hdrop : above.drop climbs with
      | nil =>
        have hlength : above.length ≤ climbs := List.drop_eq_nil_iff.mp hdrop
        have hnext : above.drop (climbs + 1) = [] := List.drop_eq_nil_iff.mpr (by omega)
        simp only [under, step, hdrop, hnext, List.nil_append, Place.mk.injEq, true_and]
        omega
      | cons next rest =>
        have hlength : climbs < above.length := by
          by_contra hle
          rw [List.drop_eq_nil_iff.mpr (by omega)] at hdrop
          contradiction
        have hnext : above.drop (climbs + 1) = rest := by
          rw [← List.tail_drop, hdrop, List.tail_cons]
        simp only [under, step, hdrop, hnext, List.nil_append, Place.mk.injEq, true_and]
        omega

/-- A walk leads to the same place from both starts. -/
theorem walk_under (p : Place) (above : List String) (cs : List Component) :
    (p.under above).walk cs = (p.walk cs).under above := by
  induction cs generalizing p with
  | nil => rfl
  | cons c cs ih =>
    change ((p.under above).step c).walk cs = ((p.step c).walk cs).under above
    rw [step_under, ih]

/-- A text leads to the same place from both starts. -/
theorem follow_under (p : Place) (above : List String) (text : String) :
    (p.under above).follow text = (p.follow text).under above := by
  rw [follow_eq_walk, follow_eq_walk, walk_under]

end Place

/-- The level that a piece of a text leads to: nothing and a dot stay, two dots lead up, and a name leads
down. -/
def levelAfter (level : ℤ) (piece : List Char) : ℤ :=
  if piece = [] ∨ piece = ['.'] then level
  else if piece = ['.', '.'] then level - 1
  else level + 1

/-- Whether a text, resolved piece by piece from a directory that lies some levels below the source root,
never leads more than `k` levels above the root. -/
def ClimbsAtMost (k depth : ℕ) (text : String) : Prop :=
  ∀ front, front <+: Path.segments text.toList → -(k : ℤ) ≤ front.foldl levelAfter depth

instance (k depth : ℕ) (text : String) : Decidable (ClimbsAtMost k depth text) :=
  decidable_of_iff
    (∀ front ∈ (Path.segments text.toList).inits, -(k : ℤ) ≤ front.foldl levelAfter depth)
    (by simp only [ClimbsAtMost, List.mem_inits])

namespace Place

/-- The level of a place below or above the start. -/
def level (p : Place) : ℤ := p.names.length - p.climbs

/-- A piece leads to the level that is counted for it. -/
theorem level_enter (p : Place) (piece : List Char) :
    (p.enter piece).level = levelAfter p.level piece := by
  obtain ⟨names, climbs⟩ := p
  unfold enter levelAfter
  split
  · rfl
  · split
    · cases names <;> simp only [level, step, List.length_nil, List.length_cons] <;> omega
    · simp only [level, step, List.length_cons]
      omega

/-- The start is met no further up than the level that a piece leads to. -/
theorem climbs_enter_le {k : ℕ} {p : Place} {piece : List Char} (hp : p.climbs ≤ k)
    (hlevel : -(k : ℤ) ≤ (p.enter piece).level) : (p.enter piece).climbs ≤ k := by
  obtain ⟨names, climbs⟩ := p
  unfold enter at *
  split
  · exact hp
  · split
    next hplain hdots =>
      cases names with
      | cons last before => exact hp
      | nil =>
        rw [if_neg hplain, if_pos hdots] at hlevel
        simp only [level, step, List.length_nil] at hlevel ⊢
        omega
    · exact hp

/-- If no piece leads too far up, the start is not met too often. -/
theorem climbs_follow_le {k : ℕ} {names : List String} {text : String}
    (h : ClimbsAtMost k names.length text) : ((⟨names, 0⟩ : Place).follow text).climbs ≤ k := by
  have hfold (pieces : List (List Char)) (p : Place) (hp : p.climbs ≤ k)
      (hlevel : ∀ front, front <+: pieces → -(k : ℤ) ≤ front.foldl levelAfter p.level) :
      (pieces.foldl enter p).climbs ≤ k := by
    induction pieces generalizing p with
    | nil => exact hp
    | cons piece pieces ih =>
      have hfirst := hlevel [piece] (List.prefix_append [piece] pieces)
      rw [List.foldl_cons, List.foldl_nil, ← level_enter] at hfirst
      refine ih _ (climbs_enter_le hp hfirst) fun front hfront => ?_
      rw [level_enter]
      exact hlevel (piece :: front) (List.cons_prefix_cons.mpr ⟨rfl, hfront⟩)
  refine hfold _ _ (Nat.zero_le k) fun front hfront => ?_
  have hstart : (⟨names, 0⟩ : Place).level = names.length := Int.sub_zero _
  rw [hstart]
  exact h front hfront

end Place

section Root

variable {root : Path} {above shared directories : List String} {name : String}

/-- A path from the top that has only names leads to these names. -/
theorem Path.place_of_names {p : Path} {names : List String}
    (h : p.components = .root :: names.map .name) : p.place = ⟨names.reverse, 0⟩ := by
  have habsolute : p.isAbsolute = true := by rw [isAbsolute, h]; rfl
  rw [components_of_isAbsolute habsolute, List.cons.injEq] at h
  rw [place, Place.follow_eq_walk, h.2, Place.walk_names]
  exact congrArg (Place.mk · 0) (List.append_nil _)

/-- A path with components is not empty. -/
theorem Path.text_ne_empty_of_names {p : Path} {cs : List Component} (h : p.components = .root :: cs) :
    p.text ≠ "" := by
  intro hempty
  obtain rfl : p = ⟨""⟩ := congrArg Path.mk hempty
  exact absurd h (by simp [components, componentsOf, segments, Component.ofSegment?])

/-- The directory of a file below a root leads to the names down to it. -/
theorem exists_directory_of_descend {names : List String}
    (hroot : root.components = .root :: names.map .name)
    (hnames : ∀ n ∈ directories ++ [name], (Component.name n).IsInner) :
    ∃ directory, (root.descend (directories ++ [name])).parent? = some directory ∧
      directory.place = (⟨directories.reverse, 0⟩ : Place).under names.reverse := by
  have hfile : (root.descend (directories ++ [name])).components =
      .root :: (names ++ directories).map .name ++ [.name name] := by
    rw [Path.components_descend (Path.text_ne_empty_of_names hroot) hnames, hroot]
    simp
  have hparent : ∃ directory, (root.descend (directories ++ [name])).parent? = some directory := by
    rw [Path.parent?, hfile, List.getLast?_concat]
    exact ⟨_, rfl⟩
  obtain ⟨directory, hdirectory⟩ := hparent
  refine ⟨directory, hdirectory, ?_⟩
  have hcomponents := Path.components_parent? hdirectory
  rw [hfile, List.dropLast_concat] at hcomponents
  rw [Path.place_of_names hcomponents, List.reverse_append]
  simp [Place.under]

/-- A place that was led to from below the root lies in a layer exactly if the way back down from where
it climbed to is that of the last names of the root and then that of the layer's directory. -/
theorem liesIn_under_iff {q : Place} {l : Layer} (hclimbs : q.climbs ≤ shared.length) :
    (⟨(above ++ shared).reverse, 0⟩ : Place).LiesIn (q.under (above ++ shared).reverse) l ↔
      ∃ rest, q.names.reverse = shared.drop (shared.length - q.climbs) ++ l.segment :: rest := by
  have hkept : (q.under (above ++ shared).reverse).names.reverse =
      (above ++ shared.take (shared.length - q.climbs)) ++ q.names.reverse := by
    rw [Place.under, List.reverse_append, List.drop_reverse, List.reverse_reverse, List.length_append,
      show above.length + shared.length - q.climbs = above.length + (shared.length - q.climbs) by
        omega, List.take_length_add_append]
  have hroot : above ++ shared = (above ++ shared.take (shared.length - q.climbs)) ++
      shared.drop (shared.length - q.climbs) := by
    rw [List.append_assoc, List.take_append_drop]
  rw [Place.LiesIn, hkept, List.reverse_reverse]
  refine exists_congr fun rest => ?_
  rw [hroot, List.append_assoc (above ++ _), List.append_cancel_left_eq]

/-- Where an import leads from directories below a root, as seen from the root. -/
def importedPlace (directories : List String) (specifier : String) : Place :=
  (⟨directories.reverse, 0⟩ : Place).follow specifier

/-- The layer of an import that does not lead too far up, told without the names that are too far up to
be met. -/
theorem layerOfImport_descend_eq_some_iff {specifier : String} {l : Layer}
    (hroot : root.components = .root :: (above ++ shared).map .name)
    (hnames : ∀ n ∈ directories ++ [name], (Component.name n).IsInner)
    (hrelative : isRelativeSpecifier specifier = true)
    (hclimb : ClimbsAtMost shared.length directories.length specifier) :
    (Classifier.ofRoot root).layerOfImport specifier (root.descend (directories ++ [name])) = some l ↔
      ∃ rest, (importedPlace directories specifier).names.reverse =
        shared.drop (shared.length - (importedPlace directories specifier).climbs) ++
          l.segment :: rest := by
  have hclimbs : (importedPlace directories specifier).climbs ≤ shared.length :=
    Place.climbs_follow_le (by rwa [List.length_reverse])
  have habsolute : root.isAbsolute = true := by rw [Path.isAbsolute, hroot]; rfl
  have hfile : (root.descend (directories ++ [name])).isAbsolute = true := by
    rw [Path.isAbsolute, Path.components_descend (Path.text_ne_empty_of_names hroot) hnames, hroot]
    rfl
  obtain ⟨directory, hdirectory, hplace⟩ := exists_directory_of_descend hroot hnames
  have hfollow : directory.place.follow specifier =
      (importedPlace directories specifier).under (above ++ shared).reverse := by
    rw [hplace, Place.follow_under, importedPlace]
  have hbelow : (directory.place.follow specifier).climbs = 0 := by
    rw [hfollow, Place.under, List.length_reverse, List.length_append]
    exact Nat.sub_eq_zero_of_le (by omega)
  rw [layerOfImport_eq_some_iff_place habsolute hfile hdirectory hrelative, hbelow, hfollow,
    Path.place_of_names hroot, liesIn_under_iff hclimbs]
  exact and_iff_right rfl

/-- An import has the same layer from two roots if it does not lead above the names that they share. -/
theorem layerOfImport_descend_eq {other : Path} {otherAbove : List String} {specifier : String}
    (hroot : root.components = .root :: (above ++ shared).map .name)
    (hother : other.components = .root :: (otherAbove ++ shared).map .name)
    (hnames : ∀ n ∈ directories ++ [name], (Component.name n).IsInner)
    (hclimb : isRelativeSpecifier specifier = true →
      ClimbsAtMost shared.length directories.length specifier) :
    (Classifier.ofRoot root).layerOfImport specifier (root.descend (directories ++ [name])) =
      (Classifier.ofRoot other).layerOfImport specifier (other.descend (directories ++ [name])) := by
  by_cases hrelative : isRelativeSpecifier specifier = true
  · refine Option.ext fun l => ?_
    rw [layerOfImport_descend_eq_some_iff hroot hnames hrelative (hclimb hrelative),
      layerOfImport_descend_eq_some_iff hother hnames hrelative (hclimb hrelative)]
  · rw [Classifier.layerOfImport, Classifier.layerOfImport, if_neg hrelative, if_neg hrelative]

end Root

section File

variable {root : Path} {names : List String}

/-- With dots resolved, what lies below a root is what goes down to it. -/
theorem below?_normalize_descend (hroot : root.text ≠ "")
    (hnames : ∀ n ∈ names, (Component.name n).IsInner) :
    (root.descend names).normalize.below? root.normalize = some (names.map .name) := by
  rw [Path.below?_eq_some_iff, Path.components_normalize, Path.components_normalize,
    Path.components_descend hroot hnames, Path.resolve_append_names]

/-- The layer of a file depends on the names below the root alone. -/
theorem layerOfFile_descend (hroot : root.text ≠ "")
    (hnames : ∀ n ∈ names, (Component.name n).IsInner) :
    (Classifier.ofRoot root).layerOfFile (root.descend names) =
      names.head?.bind Layer.ofSegment? := by
  rw [Classifier.layerOfFile, Classifier.ofRoot, layerOf_normalize, layerOf,
    below?_normalize_descend hroot hnames]
  cases names <;> rfl

/-- Whether a file lies in a directory of a layer depends on the names below the root alone. -/
theorem inSubdirectory_descend (hroot : root.text ≠ "")
    (hnames : ∀ n ∈ names, (Component.name n).IsInner) (layer : Layer) (directory : String) :
    (Classifier.ofRoot root).inSubdirectory (root.descend names) layer directory =
      (decide (names.head?.bind Layer.ofSegment? = some layer) &&
        (names.dropLast.drop 1).any fun n => decide (n = directory)) := by
  have hbelow : (root.descend names).normalize.below? (Classifier.ofRoot root).root =
      some (names.map .name) := below?_normalize_descend hroot hnames
  rw [Classifier.inSubdirectory, layerOfFile_descend hroot hnames, hbelow]
  simp only [← List.map_dropLast, ← List.map_drop, List.any_map]
  rfl

end File

end LayerAudit
