import LayerAudit.Proofs.Layer.Climbing

/-!
# Resolving joined paths

With dots resolved, a path shows whether it starts at the top and where it leads. A path taken from
another one leads on from there. So a path can be resolved as a whole, or its front part first: the part
that was resolved shows the parity of its climbs, which is all that what follows can tell of them. Main
statements: resolving in steps comes to the same as resolving once, and classifiers do not tell a source
root from the root without its dots. A relative path that was resolved on its own still leads to the same
place from a directory exactly if it met its start at most once.
-/

namespace LayerAudit

namespace Path

variable {p q base : Path} {names : List String}

/-- The place of a path is where its components lead. -/
theorem place_eq_walk (p : Path) : p.place = Place.start.walk p.components := by
  rw [place, Place.follow_eq_walk, components, componentsOf_eq, Place.walk_append]
  rcases leadOf_cases p.text.toList with hlead | hlead | hlead <;> rw [hlead] <;> rfl

/-- A path that does not start at the top resolves to the place that it leads to. -/
theorem components_normalize_of_not_isAbsolute (h : p.isAbsolute = false) :
    p.normalize.components = p.place.components := by
  have hinner : ∀ c ∈ innerOf p.text.toList, c.IsInner := fun _ hc => isInner_of_mem_innerOf hc
  have hresolve : resolve ([] ++ innerOf p.text.toList) = _ := resolve_append (Or.inl rfl) hinner
  rw [components_normalize, place, Place.follow_eq_walk, components, componentsOf_eq]
  rcases leadOf_cases p.text.toList with hlead | hlead | hlead
  · rw [hlead]
    exact hresolve
  · rw [isAbsolute, components, componentsOf_eq, hlead] at h
    contradiction
  · -- a dot at the start is passed over
    rw [hlead]
    exact hresolve

/-- Resolving dots leaves a path at the top, or away from it. -/
theorem isAbsolute_normalize (p : Path) : p.normalize.isAbsolute = p.isAbsolute := by
  cases h : p.isAbsolute with
  | true =>
    rw [isAbsolute, components_normalize_of_isAbsolute h]
    rfl
  | false =>
    have hinner : ∀ c ∈ innerOf p.text.toList, c.IsInner := fun _ hc => isInner_of_mem_innerOf hc
    rw [isAbsolute, components_normalize_of_not_isAbsolute h, place, Place.follow_eq_walk]
    exact decide_eq_false (head?_ne_root fun _ hc => Place.isInner_of_mem_components hinner hc)

/-- A path with dots resolved leads to the place of the path as it is shown. -/
theorem place_normalize (p : Path) : p.normalize.place = p.place.shown := by
  rw [place_eq_walk]
  cases h : p.isAbsolute with
  | true =>
    rw [components_normalize_of_isAbsolute h, place, Place.follow_eq_walk, ← Place.walk_components]
    rfl
  | false => rw [components_normalize_of_not_isAbsolute h, Place.walk_components]

/-- Paths are the same with dots resolved exactly if both start at the top or neither does, and they lead
to places that show the same. -/
theorem normalize_eq_iff :
    p.normalize = q.normalize ↔ p.isAbsolute = q.isAbsolute ∧ p.place.shown = q.place.shown := by
  constructor
  · intro h
    rw [← isAbsolute_normalize p, ← isAbsolute_normalize q, ← place_normalize p, ← place_normalize q, h]
    exact ⟨rfl, rfl⟩
  · rintro ⟨habsolute, hplace⟩
    have hcomponents : p.normalize.components = q.normalize.components := by
      rw [← Place.components_eq_iff] at hplace
      cases hp : p.isAbsolute with
      | true =>
        rw [components_normalize_of_isAbsolute hp,
          components_normalize_of_isAbsolute (habsolute.symm.trans hp), ← Place.follow_eq_walk,
          ← Place.follow_eq_walk]
        exact congrArg _ hplace
      | false =>
        rw [components_normalize_of_not_isAbsolute hp,
          components_normalize_of_not_isAbsolute (habsolute.symm.trans hp), hplace]
    rw [components_normalize, components_normalize] at hcomponents
    exact congrArg ofComponents hcomponents

/-- What is taken from the empty path is taken as it is. -/
theorem join_of_text_eq_empty (hp : p.text = "") (hq : q.isAbsolute = false) : p.join q = q := by
  rw [join, hq, hp]
  exact congrArg Path.mk String.empty_append

/-- A path taken from another one starts at the top if that one does. -/
theorem isAbsolute_join (hq : q.isAbsolute = false) : (p.join q).isAbsolute = p.isAbsolute := by
  by_cases hp : p.text = ""
  · have hempty : p.isAbsolute = false := by
      rw [← Bool.not_eq_true, isAbsolute_iff, hp]
      decide
    rw [join_of_text_eq_empty hp hq, hq, hempty]
  · have hchars : p.text.toList ≠ [] := fun h => hp (String.toList_inj.mp h)
    obtain ⟨gap, hgap⟩ := exists_text_join p
    rw [Bool.eq_iff_iff, isAbsolute_iff, isAbsolute_iff, hgap q hq, String.toList_append,
      String.toList_append, List.append_assoc, List.head?_append_of_ne_nil _ hchars]

/-- A path taken from another one leads on from the place of that one. -/
theorem place_join (hq : q.isAbsolute = false) : (p.join q).place = p.place.walk q.components := by
  by_cases hp : p.text = ""
  · have hstart : p.place = .start := by
      rw [place, hp]
      rfl
    rw [join_of_text_eq_empty hp hq, hstart, place_eq_walk]
  · have hwalk : p.place.walk q.components = p.place.walk (innerOf q.text.toList) := by
      rw [components, componentsOf_eq, Place.walk_append]
      rcases leadOf_cases q.text.toList with hlead | hlead | hlead <;> rw [hlead] <;> rfl
    rw [place_eq_walk, components_join hp hq, Place.walk_append, ← place_eq_walk, hwalk]

/-- Resolving the front part of a joined path first comes to the same as resolving it as a whole. -/
theorem normalize_join_left (p q : Path) : (p.normalize.join q).normalize = (p.join q).normalize := by
  cases hq : q.isAbsolute with
  | true => rw [join, join, if_pos hq, if_pos hq]
  | false =>
    refine normalize_eq_iff.mpr ⟨?_, ?_⟩
    · rw [isAbsolute_join hq, isAbsolute_join hq, isAbsolute_normalize]
    · rw [place_join hq, place_join hq, place_normalize, Place.shown_walk]

/-- Dots are resolved once. -/
theorem normalize_normalize (p : Path) : p.normalize.normalize = p.normalize :=
  normalize_eq_iff.mpr ⟨isAbsolute_normalize p, by rw [place_normalize, Place.shown_shown]⟩

/-- From a directory that has only names, a path leads to its place as it is seen from the top. -/
theorem place_join_of_names (hbase : base.components = .root :: names.map .name)
    (hq : q.isAbsolute = false) : (base.join q).place = q.place.under names.reverse := by
  have hstart : (⟨names.reverse, 0⟩ : Place) = Place.start.under names.reverse := by
    simp [Place.under, Place.start]
  rw [place_join hq, place_of_names hbase, hstart, Place.walk_under, ← place_eq_walk]

end Path

/-- Seen from further up, a place and the place as it is shown are the same exactly if the old start was
met at most once, as far as there are names to climb by. -/
theorem Place.shown_under_shown_iff {p : Place} {above : List String}
    (h : p.climbs ≤ above.length + 1) :
    (p.shown.under above).shown = (p.under above).shown ↔ p.climbs ≤ 1 := by
  constructor
  · intro heq
    -- a second climb takes a second name, of which the parity tells nothing
    have hnames := congrArg Place.names heq
    have hlength := congrArg List.length (List.append_cancel_left hnames)
    simp only [shown, List.length_drop] at hlength
    omega
  · intro honce
    have hmod : p.climbs % 2 = p.climbs := Nat.mod_eq_of_lt (by omega)
    rw [shown, shown, hmod]
    rfl

/-- Resolving in steps comes to the same as resolving once, whatever the paths are, and so dots are
resolved once. Classifiers do not tell a source root from the root with its dots resolved: they give
every file and every import the same layer, and look for the same directories. -/
theorem resolves_in_steps (p q root : Path) :
    (p.normalize.join q).normalize = (p.join q).normalize ∧
      p.normalize.normalize = p.normalize ∧
      (∀ path, layerOf path root.normalize = layerOf path root) ∧
      (∀ path, (Classifier.ofRoot root.normalize).layerOfFile path =
        (Classifier.ofRoot root).layerOfFile path) ∧
      (∀ specifier importer, (Classifier.ofRoot root.normalize).layerOfImport specifier importer =
        (Classifier.ofRoot root).layerOfImport specifier importer) ∧
      ∀ path layer directory,
        (Classifier.ofRoot root.normalize).inSubdirectory path layer directory =
          (Classifier.ofRoot root).inSubdirectory path layer directory := by
  have hroot : Classifier.ofRoot root.normalize = Classifier.ofRoot root :=
    congrArg Classifier.mk root.normalize_normalize
  refine ⟨p.normalize_join_left q, p.normalize_normalize, fun path => layerOf_normalize path root, ?_⟩
  rw [hroot]
  exact ⟨fun _ => rfl, fun _ _ => rfl, fun _ _ _ => rfl⟩

/-- A relative path that is resolved on its own leads from a directory to the same path as before exactly
if it met its start at most once. At the second time, what was kept of the first is taken back. -/
theorem resolved_leads_alike_iff {p base : Path} {names : List String}
    (hp : p.isAbsolute = false) (hbase : base.components = .root :: names.map .name)
    (hlong : p.components.count .parent ≤ base.components.length) :
    (base.join p.normalize).normalize = (base.join p).normalize ↔ p.place.climbs ≤ 1 := by
  have hresolved : p.normalize.isAbsolute = false := p.isAbsolute_normalize.trans hp
  have hclimbs : p.place.climbs ≤ names.reverse.length + 1 := by
    have hcount : (Place.start.walk p.components).climbs ≤ 0 + p.components.count .parent :=
      Place.start.climbs_walk_le p.components
    rw [← Path.place_eq_walk, Nat.zero_add] at hcount
    rw [hbase, List.length_cons, List.length_map] at hlong
    rw [List.length_reverse]
    exact hcount.trans hlong
  have habsolute : (base.join p.normalize).isAbsolute = (base.join p).isAbsolute := by
    rw [Path.isAbsolute_join hresolved, Path.isAbsolute_join hp]
  rw [Path.normalize_eq_iff, Path.place_join_of_names hbase hresolved,
    Path.place_join_of_names hbase hp, Path.place_normalize,
    Place.shown_under_shown_iff hclimbs]
  exact and_iff_right habsolute

/-- A path that goes up by two leads elsewhere once it is resolved on its own. -/
theorem resolved_leads_alike_iff_second_climb :
    let p : Path := ⟨"../../x"⟩
    let base : Path := ⟨"/a/b/c"⟩
    (p.isAbsolute = false ∧ base.components = .root :: ["a", "b", "c"].map .name ∧
      p.components.count .parent ≤ base.components.length) ∧
      (base.join p).normalize = ⟨"/a/x"⟩ ∧
      (base.join p.normalize).normalize ≠ (base.join p).normalize := by
  intro p base
  have hinput : p.isAbsolute = false ∧ base.components = .root :: ["a", "b", "c"].map .name ∧
      p.components.count .parent ≤ base.components.length := by decide
  obtain ⟨hp, hbase, hlong⟩ := hinput
  refine ⟨⟨hp, hbase, hlong⟩, by decide, fun heq => ?_⟩
  exact absurd ((resolved_leads_alike_iff hp hbase hlong).mp heq) (by decide)

end LayerAudit
