import LayerAudit.Proofs.Layer.Classification
import Mathlib.Data.List.Basic

/-!
# Spellings of an import

An import can name one path in many ways. What it names is followed here piece by piece: pieces
that are empty or a single dot lead nowhere, two dots lead back by one name, and at the top, where
there is nothing to go back from, they lead nowhere either. Main statement: two spellings of one
path have the same layer exactly if they climb above the top equally often up to an even number, or
if the path lies in no layer at all. In particular spellings that stay below the top agree.
-/

namespace LayerAudit

namespace Place

/-- The walk along one piece of a text. -/
def enter (p : Place) (piece : List Char) : Place :=
  if piece = [] ∨ piece = ['.'] then p
  else if piece = ['.', '.'] then p.step .parent
  else p.step (.name (String.ofList piece))

/-- The walk along the pieces of a text. -/
def follow (p : Place) (text : String) : Place := (Path.segments text.toList).foldl enter p

/-- Following a text is walking along the components that its pieces stand for. -/
theorem follow_eq_walk (p : Place) (text : String) :
    p.follow text = p.walk (Path.innerOf text.toList) := by
  have henter (q : Place) (piece : List Char) :
      q.enter piece = ((Component.ofSegment? piece).map q.step).getD q := by
    unfold enter Component.ofSegment?
    split
    · rfl
    · split <;> rfl
  unfold follow walk Path.innerOf
  induction Path.segments text.toList generalizing p with
  | nil => rfl
  | cons piece pieces ih =>
    rw [List.foldl_cons, ih, henter]
    cases hpiece : Component.ofSegment? piece with
    | none => rw [List.filterMap_cons_none hpiece, Option.map_none, Option.getD_none]
    | some c => rw [List.filterMap_cons_some hpiece, List.foldl_cons, Option.map_some, Option.getD_some]

/-- Whether a place lies in a layer of the tree below another place. -/
def LiesIn (root p : Place) (l : Layer) : Prop :=
  ∃ rest, p.names.reverse = root.names.reverse ++ l.segment :: rest

end Place

/-- The place that a path from the top names. -/
def Path.place (p : Path) : Place := Place.start.follow p.text

/-- A path from the top shows its place and the parity of its climbs. -/
theorem Path.components_normalize_eq_place {p : Path} (h : p.isAbsolute = true) :
    p.normalize.components =
      .root :: ((if p.place.climbs % 2 = 1 then [.parent] else []) ++
        p.place.names.reverse.map .name) := by
  rw [components_normalize_of_isAbsolute h, Place.components_eq, place, Place.follow_eq_walk]

private theorem map_name_eq_append_iff {names base : List String} {text : String} :
    (∃ rest, names.map Component.name = base.map .name ++ .name text :: rest) ↔
      ∃ rest, names = base ++ text :: rest := by
  constructor
  · rintro ⟨rest, h⟩
    obtain ⟨front, back, rfl, hfront, hback⟩ := List.map_eq_append_iff.mp h
    obtain ⟨first, others, rfl, hfirst, -⟩ := List.map_eq_cons_iff.mp hback
    refine ⟨others, ?_⟩
    rw [List.map_injective_iff.mpr (fun _ _ => Component.name.inj) hfront, Component.name.inj hfirst]
  · rintro ⟨rest, rfl⟩
    exact ⟨rest.map .name, by simp⟩

/-- A path from the top lies in a layer if its place does and its climbs have the root's parity. -/
theorem liesIn_iff_place {root path : Path} {l : Layer} (hroot : root.isAbsolute = true)
    (hpath : path.isAbsolute = true) :
    LiesIn root path l ↔
      path.place.climbs % 2 = root.place.climbs % 2 ∧ root.place.LiesIn path.place l := by
  rw [LiesIn, Path.components_normalize_eq_place hroot, Path.components_normalize_eq_place hpath,
    Place.LiesIn, ← map_name_eq_append_iff]
  have hone (n : ℕ) : ¬n % 2 = 1 → n % 2 = 0 := by omega
  by_cases hup : path.place.climbs % 2 = 1 <;> by_cases hrootUp : root.place.climbs % 2 = 1
  · simp [hup, hrootUp]
  · -- two dots stand where the root has a name or the layer's directory
    cases root.place.names.reverse <;> simp [hup, hone _ hrootUp]
  · cases path.place.names.reverse <;> simp [hone _ hup, hrootUp]
  · simp [hone _ hup, hone _ hrootUp]

/-- What is written as a path by a dot does not start at the top. -/
theorem WrittenAsPath.isAbsolute_eq_false {specifier : String} (h : WrittenAsPath specifier) :
    Path.isAbsolute ⟨specifier⟩ = false := by
  rw [← Bool.not_eq_true, Path.isAbsolute_iff]
  intro hslash
  rcases h with rfl | rfl | ⟨rest, hrest⟩ | ⟨rest, hrest⟩
  · contradiction
  · contradiction
  · rw [← hrest] at hslash
    simp at hslash
  · rw [← hrest] at hslash
    simp at hslash

/-- An import written as a path names a path from the top if its file does. -/
theorem isAbsolute_importedPath {importer directory : Path} {specifier : String}
    (himporter : importer.isAbsolute = true) (hdirectory : importer.parent? = some directory)
    (h : WrittenAsPath specifier) : (importedPath importer specifier).isAbsolute = true ∧
      (importedPath importer specifier).place = directory.place.follow specifier := by
  have habsolute := Path.isAbsolute_parent? himporter hdirectory
  have htext : directory.text ≠ "" := by
    intro hempty
    rw [Path.isAbsolute_iff, hempty] at habsolute
    contradiction
  have hcomponents : (importedPath importer specifier).components =
      .root :: (Path.innerOf directory.text.toList ++ Path.innerOf specifier.toList) := by
    rw [importedPath, hdirectory, Option.getD_some,
      Path.components_join htext h.isAbsolute_eq_false, Path.components_of_isAbsolute habsolute]
    rfl
  have hpath : (importedPath importer specifier).isAbsolute = true := by
    rw [Path.isAbsolute, hcomponents]
    rfl
  refine ⟨hpath, ?_⟩
  rw [Path.components_of_isAbsolute hpath, List.cons.injEq] at hcomponents
  rw [Path.place, Path.place, Place.follow_eq_walk, Place.follow_eq_walk, Place.follow_eq_walk,
    hcomponents.2, Place.walk_append]

/-- The layer of an import written as a path is that of its place, if the climbs above the top
agree with the root's up to an even number. -/
theorem layerOfImport_eq_some_iff_place {root importer directory : Path} {specifier : String}
    {l : Layer} (hroot : root.isAbsolute = true) (himporter : importer.isAbsolute = true)
    (hdirectory : importer.parent? = some directory)
    (h : isRelativeSpecifier specifier = true) :
    (Classifier.ofRoot root).layerOfImport specifier importer = some l ↔
      (directory.place.follow specifier).climbs % 2 = root.place.climbs % 2 ∧
        root.place.LiesIn (directory.place.follow specifier) l := by
  have hwritten := isRelativeSpecifier_iff.mp h
  obtain ⟨hpath, hplace⟩ := isAbsolute_importedPath himporter hdirectory hwritten
  rw [Classifier.layerOfImport_eq_some_iff, LeadsTo, liesIn_iff_place hroot hpath, hplace]
  simp [hwritten]

/-- Spellings of one path from a file's directory have the same layer exactly if their climbs above
the top agree up to an even number, or if the path that they name lies in no layer. -/
theorem layerOfImport_eq_iff_climbs {root importer directory : Path} {left right : String}
    (hroot : root.isAbsolute = true) (himporter : importer.isAbsolute = true)
    (hdirectory : importer.parent? = some directory)
    (hleft : isRelativeSpecifier left = true) (hright : isRelativeSpecifier right = true)
    (hsame : (directory.place.follow left).names = (directory.place.follow right).names) :
    (Classifier.ofRoot root).layerOfImport left importer =
        (Classifier.ofRoot root).layerOfImport right importer ↔
      (directory.place.follow left).climbs % 2 = (directory.place.follow right).climbs % 2 ∨
        ∀ l, ¬root.place.LiesIn (directory.place.follow left) l := by
  have hplace (l : Layer) : root.place.LiesIn (directory.place.follow left) l ↔
      root.place.LiesIn (directory.place.follow right) l := by
    rw [Place.LiesIn, Place.LiesIn, hsame]
  have hsome (specifier : String) (hspecifier : isRelativeSpecifier specifier = true) (l : Layer) :=
    layerOfImport_eq_some_iff_place (l := l) hroot himporter hdirectory hspecifier
  constructor
  · intro heq
    by_cases hparity :
        (directory.place.follow left).climbs % 2 = (directory.place.follow right).climbs % 2
    · exact Or.inl hparity
    · -- one of the two has the root's parity, and its layer would have to be the other's
      refine Or.inr fun l hlies => hparity ?_
      by_cases hroot : (directory.place.follow left).climbs % 2 = root.place.climbs % 2
      · have hlayer := (hsome left hleft l).mpr ⟨hroot, hlies⟩
        rw [heq] at hlayer
        exact hroot.trans ((hsome right hright l).mp hlayer).1.symm
      · have hlayer := (hsome right hright l).mpr ⟨by omega, (hplace l).mp hlies⟩
        rw [← heq] at hlayer
        exact absurd ((hsome left hleft l).mp hlayer).1 hroot
  · intro h
    refine Option.ext fun l => ?_
    rw [hsome left hleft, hsome right hright, hplace l]
    rcases h with hparity | hnone
    · rw [hparity]
    · have hother : ¬root.place.LiesIn (directory.place.follow right) l :=
        fun hlies => hnone l ((hplace l).mpr hlies)
      simp only [hother, and_false]

/-- A spelling that climbs above the top once and comes back hides the layer of the path that it
names. -/
theorem layerOfImport_above_top_ne :
    let root : Path := ⟨"/project/src"⟩
    let importer : Path := ⟨"/project/src/domain/A.ts"⟩
    let directory : Path := ⟨"/project/src/domain"⟩
    let left := "../../../../project/src/infrastructure/B"
    let right := "../infrastructure/B"
    (root.isAbsolute = true ∧ importer.isAbsolute = true ∧ importer.parent? = some directory ∧
      isRelativeSpecifier left = true ∧ isRelativeSpecifier right = true ∧
      (directory.place.follow left).names = (directory.place.follow right).names) ∧
      (Classifier.ofRoot root).layerOfImport left importer ≠
        (Classifier.ofRoot root).layerOfImport right importer := by
  intro root importer directory left right
  have hinput : root.isAbsolute = true ∧ importer.isAbsolute = true ∧
      importer.parent? = some directory ∧ isRelativeSpecifier left = true ∧
      isRelativeSpecifier right = true ∧
      (directory.place.follow left).names = (directory.place.follow right).names := by decide
  obtain ⟨hroot, himporter, hdirectory, hleft, hright, hsame⟩ := hinput
  refine ⟨⟨hroot, himporter, hdirectory, hleft, hright, hsame⟩, fun heq => ?_⟩
  rcases (layerOfImport_eq_iff_climbs hroot himporter hdirectory hleft hright hsame).mp heq with
    hparity | hnone
  · exact absurd hparity (by decide)
  · exact hnone .infrastructure ⟨["B"], by decide⟩

end LayerAudit
