import LayerAudit.Proofs.Layer.Classification

/-!
# Directories below a layer's own

A file lies in a directory of some name below a layer if, with dots resolved, the layer's directory comes
first below the source root and a directory of that name somewhere between it and the file. The layer's own
directory does not count, and neither does the name of the file. The classifier finds such a directory
exactly if there is one.
-/

namespace LayerAudit

namespace Path

/-- Behind a name, a resolved path has nothing but names. -/
theorem Resolved.exists_names {cs front rest : List Component} {text : String} (h : Resolved cs)
    (hparts : cs = front ++ .name text :: rest) : ∃ names : List String, rest = names.map .name := by
  obtain ⟨lead, inner, hlead, -, rfl⟩ := h
  rw [Place.components_eq, ← List.append_assoc] at hparts
  -- all that is no name stands in front of all names, so the name stands among them
  have hfront : Component.name text ∉
      lead ++ if (Place.start.walk inner).climbs % 2 = 1 then [.parent] else [] := by
    rcases hlead with rfl | rfl <;> split <;> simp
  rcases List.append_eq_append_iff.mp hparts with ⟨between, rfl, hnames⟩ | ⟨between, hlead, hnames⟩
  · obtain ⟨-, back, -, -, hback⟩ := List.map_eq_append_iff.mp hnames
    obtain ⟨-, others, -, -, hothers⟩ := List.map_eq_cons_iff.mp hback
    exact ⟨others, hothers.symm⟩
  · cases between with
    | nil =>
      obtain ⟨-, others, -, -, hothers⟩ := List.map_eq_cons_iff.mp hnames.symm
      exact ⟨others, hothers.symm⟩
    | cons first between =>
      obtain ⟨rfl, -⟩ := List.cons.inj hnames
      exact absurd (hlead ▸ List.mem_append_right _ List.mem_cons_self) hfront

end Path

/-- With dots resolved, a path leads from the root through a layer's directory, and then through others with
one of a given name among them, to a file. -/
def LiesBelow (root path : Path) (l : Layer) (directory : String) : Prop :=
  ∃ directories file, directory ∈ directories ∧ path.normalize.components =
    root.normalize.components ++ .name l.segment :: (directories ++ [file]).map .name

namespace Classifier

/-- The search looks at the directories between a layer's own and the file, and at nothing else. -/
theorem any_text_eq_iff {first : Component} {directories : List String} {file directory : String} :
    ((first :: (directories ++ [file]).map .name).dropLast.drop 1).any (·.text = directory) = true ↔
      directory ∈ directories := by
  have hbetween : (first :: (directories ++ [file]).map .name).dropLast.drop 1 =
      directories.map Component.name := by
    rw [List.map_append, List.map_singleton, ← List.cons_append, List.dropLast_concat, List.drop_one,
      List.tail_cons]
  rw [hbetween, List.any_map, List.any_eq_true]
  constructor
  · rintro ⟨name, hname, htext⟩
    exact of_decide_eq_true htext ▸ hname
  · exact fun hmem => ⟨directory, hmem, decide_eq_true rfl⟩

/-- The search for a directory below a layer's own finds those that are there. -/
theorem inSubdirectory_iff {root path : Path} {l : Layer} {directory : String} :
    (ofRoot root).inSubdirectory path l directory = true ↔ LiesBelow root path l directory := by
  rw [inSubdirectory, Bool.and_eq_true, decide_eq_true_eq, layerOfFile_eq_some_iff, ofRoot]
  constructor
  · rintro ⟨⟨rest, hrest⟩, hany⟩
    obtain ⟨names, rfl⟩ := (Path.resolved_components_normalize path).exists_names hrest
    rw [Path.below?_eq_some_iff.mpr hrest] at hany
    rcases List.eq_nil_or_concat names with rfl | ⟨directories, file, rfl⟩
    · exact absurd hany Bool.false_ne_true
    · rw [List.concat_eq_append] at hrest hany
      exact ⟨directories, file, any_text_eq_iff.mp hany, hrest⟩
  · rintro ⟨directories, file, hmem, hpath⟩
    refine ⟨⟨_, hpath⟩, ?_⟩
    rw [Path.below?_eq_some_iff.mpr hpath]
    exact any_text_eq_iff.mpr hmem

end Classifier

instance (root path : Path) (l : Layer) (directory : String) :
    Decidable (LiesBelow root path l directory) := decidable_of_iff _ Classifier.inSubdirectory_iff

/-- A file of the name does not count. -/
example : ¬LiesBelow ⟨"/p"⟩ ⟨"/p/infrastructure/repositories"⟩ .infrastructure "repositories" := by
  decide

end LayerAudit
