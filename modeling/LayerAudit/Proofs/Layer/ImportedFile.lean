import LayerAudit.Proofs.Layer.Classification
import LayerAudit.Proofs.Path.Ending

/-!
# The layer of an imported file

An import names a path without the ending of its file. The layer is looked up by that path, and that
of the file by the file's own. Main statement: a file that lies in a layer is named only by paths
that lie there too. A path that names no such file may lie in a layer all the same.
-/

namespace LayerAudit

/-- A file that a path names when it is imported: the ending is left out, and so is an index. -/
def IsFileOf (target file : Path) : Prop :=
  file.same ⟨target.normalize.text ++ ".ts"⟩ = true ∨
    file.same ⟨target.normalize.text ++ "/index.ts"⟩ = true

/-- No layer has a directory named like a source file. -/
theorem Layer.segment_ne_append_ts (l : Layer) (text : String) : l.segment ≠ text ++ ".ts" := by
  intro h
  have hsuffix : ".ts".toList <:+ l.segment.toList := by
    rw [h, String.toList_append]
    exact List.suffix_append _ _
  revert hsuffix
  cases l <;> decide

/-- What lies in a layer's directory has that directory above it. -/
theorem resolve_of_liesIn {root file : Path} {l : Layer} {front : List Component} {text : String}
    (hlies : LiesIn root file l) (hfile : file.components = front ++ [.name text])
    (hne : l.segment ≠ text) :
    ∃ rest, Path.resolve front = root.normalize.components ++ .name l.segment :: rest := by
  obtain ⟨rest, hrest⟩ := hlies
  have hresolve : file.normalize.components = Path.resolve front ++ [.name text] := by
    rw [Path.components_normalize, hfile]
    exact Path.resolve_append_names front [text]
  rw [hresolve] at hrest
  rcases List.eq_nil_or_concat rest with rfl | ⟨before, c, rfl⟩
  · have hlast := List.append_inj_right' hrest rfl
    exact absurd (Component.name.inj (List.cons.inj hlast).1).symm hne
  · rw [List.concat_eq_append, ← List.cons_append, ← List.append_assoc] at hrest
    exact ⟨before, List.append_inj_left' hrest rfl⟩

/-- Nothing lies in a layer's directory that is the start of a path. -/
theorem resolve_ne_of_isStart {front base rest : List Component} {text : String}
    (h : Path.IsStart front) : Path.resolve front ≠ base ++ .name text :: rest := by
  have hresolve : Path.resolve front = front := by
    rcases h with rfl | rfl <;> rfl
  rw [hresolve]
  rcases h with rfl | rfl
  · simp
  · cases base <;> simp

/-- A file that lies in a layer is named only by paths that lie there, too. -/
theorem liesIn_of_isFileOf {root target file : Path} {l : Layer} (hfile : IsFileOf target file)
    (hlies : LiesIn root file l) : LiesIn root target l := by
  have hresolved := (Path.resolved_components_normalize target).resolve_eq
  rcases hfile with hfile | hfile
  · obtain ⟨front, text, hcomponents, hfront⟩ :=
      target.components_normalize_append ".ts" (by decide) (by decide)
    obtain ⟨rest, hrest⟩ := resolve_of_liesIn hlies ((Path.same_iff.mp hfile).trans hcomponents)
      (l.segment_ne_append_ts text)
    rcases hfront with hstart | ⟨last, hlast⟩
    · exact absurd hrest (resolve_ne_of_isStart hstart)
    · refine ⟨rest ++ [.name last], ?_⟩
      have hnames := Path.resolve_append_names front [last]
      rw [List.map_singleton, ← hlast, hresolved, hrest] at hnames
      rw [hnames, List.append_assoc, List.cons_append]
  · by_cases hempty : target.normalize.text = ""
    · have hcomponents : file.components = [.root] ++ [.name "index.ts"] := by
        rw [Path.same_iff.mp hfile, hempty]
        decide
      obtain ⟨rest, hrest⟩ := resolve_of_liesIn hlies hcomponents (by cases l <;> decide)
      exact absurd hrest (resolve_ne_of_isStart (Or.inr rfl))
    · have htext : (target.normalize.text ++ "/index.ts").toList =
          target.normalize.text.toList ++ '/' :: "index.ts".toList := by
        rw [String.toList_append]
        rfl
      have hcomponents : file.components = target.normalize.components ++ [.name "index.ts"] := by
        rw [Path.same_iff.mp hfile, Path.components, htext,
          Path.componentsOf_append_slash fun h => hempty (String.toList_inj.mp h)]
        rfl
      obtain ⟨rest, hrest⟩ := resolve_of_liesIn hlies hcomponents (by cases l <;> decide)
      exact ⟨rest, hresolved ▸ hrest⟩

end LayerAudit
