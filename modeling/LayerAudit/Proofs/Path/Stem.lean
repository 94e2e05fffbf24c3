import LayerAudit.Path.Basic
import LayerAudit.Proofs.List.Parts

/-!
# File names without their last extension

The stem of a file name is what stands in front of its last dot. A name has no extension, and is its own
stem, if it has no dot or its last dot is at its start. The base name of a path is the stem of the file name
that the path ends in, and empty if it ends in none. Main statement: what is computed of a path is its base
name in this sense, and nothing else is.
-/

namespace LayerAudit.Path

/-- What is left of a file name without its last extension. -/
inductive IsStem : String → String → Prop where
  /-- The last dot has something in front of it, and starts an extension. -/
  | front {stem extension : String} (hstem : stem ≠ "") (hextension : '.' ∉ extension.toList) :
    IsStem (stem ++ "." ++ extension) stem
  /-- Behind its first character, the name has no dot. -/
  | whole {name : String} (hname : '.' ∉ name.toList.tail) : IsStem name name

/-- The stem of the file name that a path ends in; empty if it ends in none. -/
inductive IsBaseName (p : Path) : String → Prop where
  | ofName {front : List Component} {name stem : String}
    (hname : p.components = front ++ [.name name]) (hstem : IsStem name stem) : IsBaseName p stem
  | empty (hnone : ∀ front name, p.components ≠ front ++ [.name name]) : IsBaseName p ""

/-- Going back over an extension, one comes to what is in front of it. -/
theorem dropWhile_reverse_append {extension : List Char} (before : List Char)
    (h : '.' ∉ extension) :
    (before ++ extension).reverse.dropWhile (· != '.') = before.reverse.dropWhile (· != '.') := by
  rw [List.reverse_append, List.dropWhile_append_of_pos]
  exact fun c hc => ne_of_not_mem h c (List.mem_reverse.mp hc)

/-- Every file name has a stem. -/
theorem exists_isStem (name : String) : ∃ stem, IsStem name stem := by
  cases hchars : name.toList with
  | nil => exact ⟨name, .whole (by simp [hchars])⟩
  | cons first rest =>
    by_cases hdot : '.' ∈ rest
    · -- the last dot of the name is the first one from its end
      obtain ⟨extension, front, heq, hextension⟩ :=
        List.eq_append_cons_of_mem (List.mem_reverse.mpr hdot)
      have hrest : rest = front.reverse ++ '.' :: extension.reverse := by
        simpa using congrArg List.reverse heq
      have hname : name = String.ofList (first :: front.reverse) ++ "." ++
          String.ofList extension.reverse := by
        simp [← String.toList_inj, hchars, hrest]
      rw [hname]
      exact ⟨_, .front (by simp [← String.toList_inj]) (by simpa using hextension)⟩
    · exact ⟨name, .whole (by rwa [hchars, List.tail_cons])⟩

/-- The stem of a file name is what is computed of it. -/
theorem IsStem.stem_eq {name stem : String} (h : IsStem name stem) : Path.stem name = stem := by
  cases h with
  | @front stem extension hstem hextension =>
    have hchars : (stem ++ "." ++ extension).toList =
        stem.toList ++ ['.'] ++ extension.toList := by simp
    have hdrop : ((stem ++ "." ++ extension).toList.reverse.dropWhile (· != '.')).drop 1 =
        stem.toList.reverse := by
      rw [hchars, dropWhile_reverse_append _ hextension, List.reverse_append]
      rfl
    simp only [Path.stem, hdrop]
    split
    next hnil => exact absurd (by simpa using hnil) hstem
    next => simp
  | whole hname =>
    have hdrop : (name.toList.reverse.dropWhile (· != '.')).drop 1 = [] := by
      cases hchars : name.toList with
      | nil => rfl
      | cons first rest =>
        rw [hchars, List.tail_cons] at hname
        rw [← List.singleton_append, dropWhile_reverse_append _ hname]
        apply List.drop_eq_nil_of_le
        exact (List.dropWhile_sublist _).length_le
    simp [Path.stem, hdrop]

/-- A file name has one stem, which is the one that is computed. -/
theorem stem_eq_iff {name stem : String} : Path.stem name = stem ↔ IsStem name stem := by
  constructor
  · rintro rfl
    obtain ⟨stem, hstem⟩ := exists_isStem name
    rwa [hstem.stem_eq]
  · exact IsStem.stem_eq

/-- The file name of a path is the name that the path ends in. -/
theorem fileName?_eq_some_iff {p : Path} {name : String} :
    p.fileName? = some name ↔ ∃ front, p.components = front ++ [.name name] := by
  rw [← List.getLast?_eq_some_iff, fileName?]
  split <;> simp_all

/-- A path has one base name, which is the one that is computed. -/
theorem baseName_eq_iff {p : Path} {base : String} : p.baseName = base ↔ IsBaseName p base := by
  constructor
  · rintro rfl
    cases hlast : p.fileName? with
    | none =>
      rw [baseName, hlast]
      refine .empty fun front name hname => ?_
      rw [fileName?_eq_some_iff.mpr ⟨front, hname⟩] at hlast
      contradiction
    | some name =>
      obtain ⟨front, hname⟩ := fileName?_eq_some_iff.mp hlast
      rw [baseName, hlast]
      exact .ofName hname (stem_eq_iff.mp rfl)
  · intro h
    cases h with
    | @ofName front name stem hname hstem =>
      rw [baseName, fileName?_eq_some_iff.mpr ⟨front, hname⟩]
      exact hstem.stem_eq
    | empty hnone =>
      cases hlast : p.fileName? with
      | none => rw [baseName, hlast]; rfl
      | some name =>
        obtain ⟨front, hname⟩ := fileName?_eq_some_iff.mp hlast
        exact absurd hname (hnone front name)

instance (p : Path) (base : String) : Decidable (IsBaseName p base) :=
  decidable_of_iff _ baseName_eq_iff

end LayerAudit.Path
