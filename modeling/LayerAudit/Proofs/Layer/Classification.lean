import LayerAudit.Layer
import LayerAudit.Proofs.Path.Resolution

/-!
# What the layer of a file and of an import is

The classifier is pinned down here by what it looks for and not by how. A path lies in a layer if,
with dots resolved, the layer's directory is the first name below the source root. An import leads
to a layer if it is written as a path and the path that it names lies there, or if it is not and the
layer is the first one that its text mentions. The classifier gives a layer exactly if the relation
holds, so a path lies in at most one layer and an import leads to at most one.
-/

namespace LayerAudit

namespace Layer

/-- A directory names a layer exactly if it is that layer's directory. -/
theorem ofSegment?_eq_some_iff {directory : String} {l : Layer} :
    ofSegment? directory = some l ↔ l.segment = directory := by
  constructor
  · intro h
    simpa using List.find?_some h
  · rintro rfl
    exact ofSegment?_segment l

/-- The layers that a layer must not depend on are those further out. -/
theorem forbids_iff {own other : Layer} :
    own.forbids other = true ↔
      own = domain ∧ (other = application ∨ other = infrastructure) ∨
        own = application ∧ other = infrastructure := by
  cases own <;> cases other <;> decide

end Layer

/-- A path lies in a layer of the tree below a root if the layer's directory comes first there. -/
def LiesIn (root path : Path) (l : Layer) : Prop :=
  ∃ rest, path.normalize.components = root.normalize.components ++ .name l.segment :: rest

/-- The layer of a path is the one that it lies in. -/
theorem layerOf_eq_some_iff {path root : Path} {l : Layer} :
    layerOf path root = some l ↔ LiesIn root path l := by
  unfold layerOf LiesIn
  constructor
  · intro h
    split at h
    next first rest hbelow =>
      obtain rfl := Layer.ofSegment?_eq_some_iff.mp h
      exact ⟨rest, Path.below?_eq_some_iff.mp hbelow⟩
    next => contradiction
  · rintro ⟨rest, hrest⟩
    rw [Path.below?_eq_some_iff.mpr hrest]
    exact Layer.ofSegment?_segment l

instance (root path : Path) (l : Layer) : Decidable (LiesIn root path l) :=
  decidable_of_iff _ layerOf_eq_some_iff

/-- Dots in the root do not matter. -/
theorem layerOf_normalize (path root : Path) : layerOf path root.normalize = layerOf path root := by
  refine Option.ext fun l => ?_
  rw [layerOf_eq_some_iff, layerOf_eq_some_iff, LiesIn, LiesIn, Path.components_normalize_normalize]

/-- The path that an import of a file names, if it is written as a path. -/
def importedPath (importer : Path) (specifier : String) : Path :=
  (importer.parent?.getD ⟨""⟩).join ⟨specifier⟩

/-- What is written as a path: a dot or two, or what begins with either and a slash. -/
def WrittenAsPath (specifier : String) : Prop :=
  specifier = "." ∨ specifier = ".." ∨ "./".toList <+: specifier.toList ∨
    "../".toList <+: specifier.toList

/-- Specifiers are taken for relative exactly if they are written as paths. -/
theorem isRelativeSpecifier_iff {specifier : String} :
    isRelativeSpecifier specifier = true ↔ WrittenAsPath specifier := by
  simp only [isRelativeSpecifier, WrittenAsPath, Bool.or_eq_true, decide_eq_true_eq,
    List.isPrefixOf_iff_prefix, or_assoc]

/-- A text mentions a layer first if the layer's name occurs in it and that of no earlier one does. -/
def MentionsFirst (text : String) (l : Layer) : Prop :=
  ∃ before after, Layer.all = before ++ l :: after ∧ l.segment.toList <:+: text.toList ∧
    ∀ m ∈ before, ¬m.segment.toList <:+: text.toList

/-- An import leads to the layer of the path that it names, or else to the one it mentions first. -/
def LeadsTo (root importer : Path) (specifier : String) (l : Layer) : Prop :=
  WrittenAsPath specifier ∧ LiesIn root (importedPath importer specifier) l ∨
    ¬WrittenAsPath specifier ∧ MentionsFirst specifier l

namespace Classifier

/-- The layer of a file is the one that it lies in. -/
theorem layerOfFile_eq_some_iff {root path : Path} {l : Layer} :
    (ofRoot root).layerOfFile path = some l ↔ LiesIn root path l := by
  rw [layerOfFile, ofRoot, layerOf_normalize, layerOf_eq_some_iff]

/-- The search for names in a text finds the layer that the text mentions first. -/
theorem find?_occursIn_eq_some_iff {text : String} {l : Layer} :
    (Layer.all.find? fun m => occursIn m.segment.toList text.toList) = some l ↔
      MentionsFirst text l := by
  simp only [List.find?_eq_some_iff_append, MentionsFirst, occursIn_iff_infix, Bool.not_eq_true',
    ← Bool.not_eq_true]
  constructor
  · rintro ⟨hoccurs, before, after, hall, hbefore⟩
    exact ⟨before, after, hall, hoccurs, hbefore⟩
  · rintro ⟨before, after, hall, hoccurs, hbefore⟩
    exact ⟨hoccurs, before, after, hall, hbefore⟩

/-- The layer of an import is the one that it leads to. -/
theorem layerOfImport_eq_some_iff {root importer : Path} {specifier : String} {l : Layer} :
    (ofRoot root).layerOfImport specifier importer = some l ↔
      LeadsTo root importer specifier l := by
  rw [layerOfImport, LeadsTo, ← isRelativeSpecifier_iff]
  split
  next hrelative =>
    rw [ofRoot, layerOf_normalize, layerOf_eq_some_iff]
    simp [hrelative, importedPath]
  next hbare => simp [hbare, find?_occursIn_eq_some_iff]

end Classifier

end LayerAudit
