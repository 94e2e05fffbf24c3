import Mathlib.Data.List.Basic

/-!
# Lines of a text

A line ends with a line break, and only a line feed is one. Texts without line breaks, each with a line
break behind it, are read back as the lines of what they make up, and every line that is read is without
line breaks.
-/

namespace LayerAudit.Text

/-- Whether a text fits on one line. -/
def IsOneLine (s : String) : Prop := '\n' ∉ s.toList

instance (s : String) : Decidable (IsOneLine s) := inferInstanceAs (Decidable (_ ∉ _))

/-- The lines of a text, each from behind the line break before it. What stands behind the last line break
is no line. -/
def lines (s : String) : List String := (s.toList.splitOn '\n').dropLast.map String.ofList

/-- Whether a line starts with two spaces. -/
def isIndented (line : String) : Bool := "  ".toList.isPrefixOf line.toList

variable {s t line : String}

/-- What is put together from two texts fits on one line if both do. -/
theorem isOneLine_append : IsOneLine (s ++ t) ↔ IsOneLine s ∧ IsOneLine t := by
  rw [IsOneLine, String.toList_append, List.mem_append, not_or]
  rfl

/-- A name that fits on one line fits on one with the words around it. -/
theorem isOneLine_between {before name after : String} (hbefore : IsOneLine before)
    (hname : IsOneLine name) (hafter : IsOneLine after) : IsOneLine (before ++ name ++ after) :=
  isOneLine_append.mpr ⟨isOneLine_append.mpr ⟨hbefore, hname⟩, hafter⟩

/-- The last of some names fits on one line if they do with something between them. -/
theorem isOneLine_of_intercalate_concat {separator last : String} {names : List String}
    (h : IsOneLine (separator.intercalate (names ++ [last]))) : IsOneLine last := by
  by_cases hnames : names = []
  · rwa [hnames, List.nil_append, String.intercalate_singleton] at h
  · rw [String.intercalate_append_of_ne_nil hnames (by simp), String.intercalate_singleton,
      isOneLine_append] at h
    exact h.2

/-- A number is written in digits. -/
theorem isDigit_of_mem_toString {n : ℕ} {c : Char} (h : c ∈ (toString n).toList) :
    c.isDigit = true := by
  rw [Nat.toString_eq_repr, Nat.toList_repr] at h
  exact Nat.isDigit_of_mem_toDigits (by decide) (by decide) h

/-- A number fits on one line. -/
theorem isOneLine_toString (n : ℕ) : IsOneLine (toString n) := fun h =>
  absurd (isDigit_of_mem_toString h) (by decide)

/-- The pieces of a list hold no separator. -/
theorem not_mem_of_mem_splitOn {α : Type} [DecidableEq α] {separator : α} {all piece : List α}
    (h : piece ∈ all.splitOn separator) : separator ∉ piece := by
  induction all generalizing piece with
  | nil =>
    rw [List.splitOn_nil, List.mem_singleton] at h
    exact h ▸ List.not_mem_nil
  | cons a all ih =>
    rw [List.splitOn_cons_eq_if_modifyHead] at h
    split at h
    next heq =>
      rcases List.mem_cons.mp h with rfl | hrest
      · exact List.not_mem_nil
      · exact ih hrest
    next hne =>
      obtain ⟨first, others, hpieces⟩ := List.exists_cons_of_ne_nil (List.splitOn_ne_nil separator all)
      rw [hpieces] at h ih
      rcases List.mem_cons.mp h with rfl | hrest
      · rw [List.mem_cons, not_or]
        exact ⟨fun heq => hne (beq_iff_eq.mpr heq.symm), ih List.mem_cons_self⟩
      · exact ih (List.mem_cons_of_mem _ hrest)

/-- The lines that are read of a text are without line breaks. -/
theorem isOneLine_of_mem_lines (h : line ∈ lines s) : IsOneLine line := by
  obtain ⟨piece, hpiece, rfl⟩ := List.mem_map.mp h
  rw [IsOneLine, String.toList_ofList]
  exact not_mem_of_mem_splitOn (List.dropLast_subset _ hpiece)

/-- What stands between the line breaks of a text, in front of the first one and behind the last one. -/
def pieces (s : String) : List String := (s.toList.splitOn '\n').map String.ofList

/-- A text without line breaks is its only piece. -/
theorem pieces_of_isOneLine (h : IsOneLine s) : pieces s = [s] := by
  rw [pieces, List.splitOn_eq_singleton h, List.map_singleton, String.ofList_toList]

/-- The pieces of a text that has a line break behind it are the first lines. -/
theorem lines_append_eq_pieces (s rest : String) : lines (s ++ "\n" ++ rest) = pieces s ++ lines rest := by
  have hchars : (s ++ "\n" ++ rest).toList = s.toList ++ '\n' :: rest.toList := by simp
  rw [lines, hchars, List.splitOn_append_cons_self,
    List.dropLast_append_of_ne_nil (List.splitOn_ne_nil _ _), List.map_append]
  rfl

/-- Texts with a line break behind each are read back as their pieces. -/
theorem lines_join_eq_pieces (parts : List String) :
    lines (String.join (parts.map (· ++ "\n"))) = parts.flatMap pieces := by
  induction parts with
  | nil => rfl
  | cons part parts ih =>
    rw [List.map_cons, String.join_cons, lines_append_eq_pieces, ih, List.flatMap_cons]

/-- Texts without line breaks are read back as lines. -/
theorem lines_join {parts : List String} (h : ∀ part ∈ parts, IsOneLine part) :
    lines (String.join (parts.map (· ++ "\n"))) = parts := by
  have hpieces : parts.flatMap pieces = parts.flatMap fun part => [part] :=
    List.flatMap_congr fun part hpart => pieces_of_isOneLine (h part hpart)
  rw [lines_join_eq_pieces, hpieces, List.flatMap_singleton']

example : lines "Errors (1):\n  a.ts\n\n" = ["Errors (1):", "  a.ts", ""] := by decide

/-- A text that starts with something else than a space is not indented. -/
theorem isIndented_eq_false (h : s.toList.head?.any (· != ' ') = true) : isIndented (s ++ t) = false := by
  obtain ⟨c, hhead, hc⟩ := (Option.any_eq_true _ _).mp h
  obtain ⟨rest, hchars⟩ := List.head?_eq_some_iff.mp hhead
  rw [← Bool.not_eq_true, isIndented, List.isPrefixOf_iff_prefix, String.toList_append, hchars]
  intro hprefix
  exact bne_iff_ne.mp hc (List.cons_prefix_cons.mp hprefix).1.symm

/-- A text that starts with a number is not indented. -/
theorem isIndented_toString_append (n : ℕ) (t : String) : isIndented (toString n ++ t) = false := by
  refine isIndented_eq_false ?_
  obtain ⟨c, rest, hchars⟩ := List.exists_cons_of_ne_nil (l := (toString n).toList) (by
    rw [Nat.toString_eq_repr, Nat.toList_repr]
    exact Nat.toDigits_ne_nil)
  have hdigit : c.isDigit = true := isDigit_of_mem_toString (hchars ▸ List.mem_cons_self)
  rw [hchars, List.head?_cons, Option.any_some, bne_iff_ne]
  rintro rfl
  exact absurd hdigit (by decide)

end LayerAudit.Text
