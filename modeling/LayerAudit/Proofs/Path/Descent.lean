import LayerAudit.Proofs.Path.Order

/-!
# Paths below another path

A walk over a file tree writes the names that it goes down by behind the path where it starts. Such
a path means the start and then the names, so the names can be read off again, from the path or from
how it is shown to those who know the start, and two of these paths are ordered as their names are.
-/

namespace LayerAudit.Path

/-- The path that goes down from another one by names. -/
def descend (p : Path) (names : List String) : Path := names.foldl (fun p name => p.join ⟨name⟩) p

/-- The names of a text of names with slashes between them, but the last one. -/
def directoriesOf (text : String) : List String :=
  (components ⟨text⟩).dropLast.map Component.text

variable {p : Path} {names : List String}

/-- What has no slash does not start at the top. -/
theorem isAbsolute_of_isInner {name : String} (h : (Component.name name).IsInner) :
    isAbsolute ⟨name⟩ = false := by
  rw [← Bool.not_eq_true, isAbsolute_iff]
  exact fun hslash => h.1 (List.mem_of_mem_head? hslash)

/-- A name is the only component that it stands for. -/
theorem innerOf_name {name : String} (h : (Component.name name).IsInner) :
    innerOf name.toList = [.name name] := by
  have hname : ∀ c ∈ [Component.name name], c.IsInner := by simpa using h
  have hread := innerOf_joined hname
  rwa [joined_singleton] at hread

/-- A path below one that is not empty is not empty. -/
theorem text_join_ne_empty {q : Path} (hp : p.text ≠ "") (hq : q.isAbsolute = false) :
    (p.join q).text ≠ "" := by
  intro hempty
  rw [join, hq, if_neg Bool.false_ne_true] at hempty
  split at hempty
  · exact hp (String.append_eq_empty_iff.mp hempty).1
  · exact hp (String.append_eq_empty_iff.mp hempty).1
  · exact hp (String.append_eq_empty_iff.mp (String.append_eq_empty_iff.mp hempty).1).1

/-- A path that goes down by names means these names behind its start. -/
theorem components_descend (hp : p.text ≠ "") (hnames : ∀ n ∈ names, (Component.name n).IsInner) :
    (p.descend names).components = p.components ++ names.map .name := by
  induction names generalizing p with
  | nil => exact (List.append_nil _).symm
  | cons name names ih =>
    have hname := hnames name List.mem_cons_self
    have habsolute := isAbsolute_of_isInner hname
    change ((p.join ⟨name⟩).descend names).components = _
    rw [ih (text_join_ne_empty hp habsolute) fun n hn => hnames n (List.mem_cons_of_mem _ hn),
      components_join hp habsolute, innerOf_name hname, List.append_assoc]
    rfl

/-- A path that goes down by names ends in the last of them. -/
theorem fileName?_descend {directories : List String} {name : String} (hp : p.text ≠ "")
    (hnames : ∀ n ∈ directories ++ [name], (Component.name n).IsInner) :
    (p.descend (directories ++ [name])).fileName? = some name := by
  rw [fileName?, components_descend hp hnames, List.map_append, ← List.append_assoc,
    List.map_singleton, List.getLast?_concat]

/-- Names are written as they are. -/
theorem map_text_name (names : List String) : (names.map Component.name).map Component.text = names :=
  (List.map_map).trans (List.map_id names)

/-- Shown to those who know the start, the path is the names with slashes between them. -/
theorem relativeTo_descend (hp : p.text ≠ "") (hnames : ∀ n ∈ names, (Component.name n).IsInner) :
    (p.descend names).relativeTo p = String.intercalate "/" names := by
  have hbelow : (p.descend names).below? p = some (names.map .name) :=
    below?_eq_some_iff.mpr (components_descend hp hnames)
  have hshown : (names.map Component.name).filter (fun c => c != .root && c != .current) =
      names.map .name := by
    rw [List.filter_eq_self]
    intro c hc
    obtain ⟨name, -, rfl⟩ := List.mem_map.mp hc
    rfl
  have hroot : (names.map Component.name).head? ≠ some .root := by
    cases names <;> simp
  rw [relativeTo, hbelow, Option.getD_some, display, hshown, if_neg hroot, map_text_name]

/-- Names with slashes between them are the plainest text of the names. -/
theorem ofComponents_names (names : List String) :
    ofComponents (names.map .name) = ⟨String.intercalate "/" names⟩ := by
  unfold ofComponents
  split
  next rest heq =>
    cases names with
    | nil => contradiction
    | cons name names => simp at heq
  next => rw [map_text_name]

/-- Names with slashes between them mean the names. -/
theorem components_names (hnames : ∀ n ∈ names, (Component.name n).IsInner) :
    (⟨String.intercalate "/" names⟩ : Path).components = names.map .name := by
  rw [← ofComponents_names]
  refine components_ofComponents ⟨[], names.map .name, Or.inl rfl, fun c hc => ?_, rfl⟩
  obtain ⟨name, hname, rfl⟩ := List.mem_map.mp hc
  exact hnames name hname

/-- Shown to those who know the start, the path means the names alone. -/
theorem components_relativeTo_descend (hp : p.text ≠ "")
    (hnames : ∀ n ∈ names, (Component.name n).IsInner) :
    (⟨(p.descend names).relativeTo p⟩ : Path).components = names.map .name := by
  rw [relativeTo_descend hp hnames, components_names hnames]

/-- Shown to those who know the start, the path shows the directories that it goes down by. -/
theorem directoriesOf_relativeTo_descend (hp : p.text ≠ "")
    (hnames : ∀ n ∈ names, (Component.name n).IsInner) :
    directoriesOf ((p.descend names).relativeTo p) = names.dropLast := by
  rw [directoriesOf, components_relativeTo_descend hp hnames, ← List.map_dropLast, List.map_map]
  exact List.map_id _

/-- What is joined to a path is written behind it, with a slash between if there is none. -/
theorem exists_text_join (p : Path) :
    ∃ gap, ∀ q : Path, q.isAbsolute = false → p.join q = ⟨p.text ++ gap ++ q.text⟩ := by
  cases hlast : p.text.toList.getLast? with
  | none => exact ⟨"", fun q hq => by simp [join, hq, hlast]⟩
  | some c =>
    by_cases hc : c = '/'
    · exact ⟨"", fun q hq => by simp [join, hq, hlast, hc]⟩
    · exact ⟨"/", fun q hq => by simp [join, hq, hlast]⟩

/-- What starts with a name does not start at the top. -/
theorem isAbsolute_name_append {name : String} (hname : (Component.name name).IsInner)
    (rest : String) : isAbsolute ⟨name ++ rest⟩ = false := by
  obtain ⟨c, cs, hcs⟩ := List.exists_cons_of_ne_nil hname.text_ne.1
  have hchars : name.toList = c :: cs := hcs
  rw [← Bool.not_eq_true, isAbsolute_iff, String.toList_append, hchars]
  intro hslash
  obtain rfl := Option.some.inj hslash
  exact hname.1 (hcs ▸ List.mem_cons_self)

/-- Names with slashes between them do not start at the top. -/
theorem isAbsolute_names (hnames : ∀ n ∈ names, (Component.name n).IsInner) :
    isAbsolute ⟨String.intercalate "/" names⟩ = false := by
  rw [isAbsolute, components_names hnames]
  cases names <;> simp

/-- To go down by a name and then on is to write the rest behind that name and a slash. -/
theorem join_join {name rest : String} (hname : (Component.name name).IsInner)
    (hrest : isAbsolute ⟨rest⟩ = false) :
    (p.join ⟨name⟩).join ⟨rest⟩ = p.join ⟨name ++ "/" ++ rest⟩ := by
  obtain ⟨gap, hgap⟩ := exists_text_join p
  have hlong : isAbsolute ⟨name ++ "/" ++ rest⟩ = false := by
    rw [String.append_assoc]
    exact isAbsolute_name_append hname _
  have hlast : (p.text ++ gap ++ name).toList.getLast? = name.toList.getLast? := by
    rw [String.toList_append]
    rw [List.getLast?_append, Option.or_of_isSome]
    exact List.getLast?_isSome.mpr hname.text_ne.1
  rw [hgap _ hlong, hgap _ (isAbsolute_of_isInner hname), join, hrest, if_neg Bool.false_ne_true,
    hlast]
  split
  next hnone => exact absurd (List.getLast?_eq_none_iff.mp hnone) hname.text_ne.1
  next hslash => exact absurd (List.mem_of_getLast? hslash) hname.1
  next => simp only [String.append_assoc]

/-- A path that goes down by names is the path with the names written behind it. -/
theorem descend_eq_join (hne : names ≠ []) (hnames : ∀ n ∈ names, (Component.name n).IsInner) :
    p.descend names = p.join ⟨String.intercalate "/" names⟩ := by
  induction names generalizing p with
  | nil => contradiction
  | cons name rest ih =>
    have hname := hnames name List.mem_cons_self
    cases rest with
    | nil => rw [String.intercalate_singleton]; rfl
    | cons next others =>
      have hrest : ∀ n ∈ next :: others, (Component.name n).IsInner :=
        fun n hn => hnames n (List.mem_cons_of_mem _ hn)
      change (p.join ⟨name⟩).descend (next :: others) = _
      rw [ih (List.cons_ne_nil _ _) hrest, join_join hname (isAbsolute_names hrest),
        String.intercalate_cons_cons]

/-- What two lists begin with does not matter for their order. -/
theorem compareComponents_append_left (cs as bs : List Component) :
    compareComponents (cs ++ as) (cs ++ bs) = compareComponents as bs := by
  induction cs with
  | nil => rfl
  | cons c cs ih =>
    have hself : Component.compare c c = .eq := Std.ReflCmp.compare_self
    rw [List.cons_append, List.cons_append, compareComponents, hself, ih]
    rfl

/-- Whether what lies at some names comes before what lies at others. -/
def NamesBefore (as bs : List String) : Prop :=
  compareComponents (as.map .name) (bs.map .name) = .lt

/-- Behind the same name the rest decides. -/
theorem namesBefore_cons {name : String} {as bs : List String} :
    NamesBefore (name :: as) (name :: bs) ↔ NamesBefore as bs := by
  have happend := compareComponents_append_left [.name name] (as.map .name) (bs.map .name)
  rw [NamesBefore, NamesBefore, ← happend]
  rfl

/-- Different names decide. -/
theorem namesBefore_of_lt {a b : String} (h : a < b) (as bs : List String) :
    NamesBefore (a :: as) (b :: bs) := by
  have hcompare : Component.compare (.name a) (.name b) = .lt := if_pos h
  rw [NamesBefore, List.map_cons, List.map_cons, compareComponents, hcompare]
  rfl

/-- Paths below one start are ordered as the names that they go down by. -/
theorem before_descend {as bs : List String} (hp : p.text ≠ "")
    (has : ∀ n ∈ as, (Component.name n).IsInner) (hbs : ∀ n ∈ bs, (Component.name n).IsInner)
    (h : NamesBefore as bs) : (p.descend as).Before (p.descend bs) := by
  rw [Before, compare, components_descend hp has, components_descend hp hbs,
    compareComponents_append_left]
  exact h

end LayerAudit.Path
