import LayerAudit.FileTree
import LayerAudit.Named
import LayerAudit.Proofs.Path.Components

/-!
# Names in a file tree

In a file system no directory has two entries of one name, and a name is never empty, holds no slash
and is none of the dots. Trees with this property are called well named here. A path in such a tree
only leads to entries that are well named themselves.
-/

namespace LayerAudit

namespace Entry

/-- What holds of files and links, and of a directory if it holds of all its entries, holds of every
entry. -/
@[induction_eliminator]
theorem induction {motive : Entry → Prop} (file : ∀ content, motive (file content))
    (directory : ∀ entries, (∀ e ∈ entries, motive e.2) → motive (directory entries))
    (link : ∀ target, motive (link target)) (e : Entry) : motive e :=
  match e with
  | .file content => file content
  | .link target => link target
  | .directory entries => directory entries fun e he =>
      have hsize : sizeOf e.2 < 1 + sizeOf entries := by
        have hentry := List.sizeOf_lt_of_mem he
        have hpair : sizeOf e = 1 + sizeOf e.1 + sizeOf e.2 := by
          obtain ⟨name, entry⟩ := e
          exact Prod.mk.sizeOf_spec name entry
        omega
      induction file directory link e.2

mutual

/-- Whether the names at an entry and below it are those of a file system. -/
def wellNamed : Entry → Bool
  | .directory entries => decide (entries.map Prod.fst).Nodup && allWellNamed entries
  | _ => true

/-- Whether entries have good names and are well named themselves. -/
def allWellNamed : List (String × Entry) → Bool
  | [] => true
  | (name, entry) :: rest =>
    decide (Component.name name).IsInner && entry.wellNamed && allWellNamed rest

end

/-- Entries are well named if each of them is, under a good name. -/
theorem allWellNamed_iff {entries : List (String × Entry)} :
    allWellNamed entries = true ↔
      ∀ e ∈ entries, (Component.name e.1).IsInner ∧ e.2.wellNamed = true := by
  induction entries with
  | nil => simp [allWellNamed]
  | cons e rest ih =>
    simp only [allWellNamed, Bool.and_eq_true, decide_eq_true_eq, ih, List.forall_mem_cons]

/-- A directory is well named if its names are good ones and differ, and its entries are so. -/
theorem wellNamed_directory_iff {entries : List (String × Entry)} :
    (directory entries).wellNamed = true ↔ (entries.map Prod.fst).Nodup ∧
      ∀ e ∈ entries, (Component.name e.1).IsInner ∧ e.2.wellNamed = true := by
  rw [wellNamed, Bool.and_eq_true, decide_eq_true_eq, allWellNamed_iff]

/-- What is found under a name is well named, too. -/
theorem wellNamed_child? {e child : Entry} {name : String} (he : e.wellNamed = true)
    (h : e.child? name = some child) : child.wellNamed = true := by
  cases e with
  | file content => contradiction
  | link target => contradiction
  | directory entries =>
    have hchild : (name, child) ∈ entries := by
      obtain ⟨before, after, rfl, -⟩ := List.lookup_eq_some_iff.mp h
      exact List.mem_append_right _ List.mem_cons_self
    exact ((wellNamed_directory_iff.mp he).2 _ hchild).2

end Entry

namespace FileTree

/-- Whether all names in the tree are those of a file system. -/
def wellNamed (t : FileTree) : Bool := t.top.wellNamed

/-- What lies at a place is well named. -/
theorem wellNamed_at? {t : FileTree} (ht : t.wellNamed = true) {place : List String} {e : Entry}
    (h : t.at? place = some e) : e.wellNamed = true := by
  have hfold (found : Option Entry) (hfound : ∀ e ∈ found, e.wellNamed = true)
      (place : List String) :
      ∀ e ∈ place.foldl (fun found name => found.bind (Entry.child? name)) found,
        e.wellNamed = true := by
    induction place generalizing found with
    | nil => exact hfound
    | cons name place ih =>
      refine ih _ fun child hchild => ?_
      obtain ⟨parent, hparent, hname⟩ := Option.bind_eq_some_iff.mp hchild
      exact Entry.wellNamed_child? (hfound parent hparent) hname
  exact hfold _ (fun e he => Option.some.inj he ▸ ht) place e h

/-- A path leads to what lies at the place that it leads to. -/
theorem find_eq_ok_iff {t : FileTree} {p : Path} {e : Entry} :
    t.find p = .ok e ↔ ∃ place, t.resolve p = .ok place ∧ t.at? place = some e := by
  unfold find
  cases hplace : t.resolve p with
  | error fault => simp [bind, Except.bind]
  | ok place =>
    cases hentry : t.at? place with
    | none => simp [bind, Except.bind, throw, throwThe, MonadExceptOf.throw, hentry]
    | some entry => simp [bind, Except.bind, pure, Except.pure, hentry]

/-- What a path leads to is well named. -/
theorem wellNamed_find {t : FileTree} (ht : t.wellNamed = true) {p : Path} {e : Entry}
    (h : t.find p = .ok e) : e.wellNamed = true := by
  obtain ⟨place, -, hentry⟩ := find_eq_ok_iff.mp h
  exact wellNamed_at? ht hentry

/-- The empty path leads nowhere. -/
theorem find_empty (t : FileTree) : t.find ⟨""⟩ = .error .notFound := rfl

/-- A name is neither empty nor one of the dots. -/
theorem ne_of_isInner {name : String} (h : (Component.name name).IsInner) :
    ¬(name = "" ∨ name = ".") ∧ name ≠ ".." := by
  refine ⟨?_, ?_⟩
  · rintro (rfl | rfl)
    · exact absurd h (by decide)
    · exact absurd h (by decide)
  · rintro rfl
    exact absurd h (by decide)

/-- Whatever lies below a place, the place is a directory with the next name. -/
theorem exists_lookup_of_at? {t : FileTree} {place rest : List String} {name : String} {e : Entry}
    (h : t.at? (place ++ name :: rest) = some e) :
    ∃ entries child, t.at? place = some (.directory entries) ∧ entries.lookup name = some child ∧
      t.at? (place ++ [name]) = some child := by
  have hnone (rest : List String) :
      rest.foldl (fun found name => found.bind (Entry.child? name)) none = none := by
    induction rest with
    | nil => rfl
    | cons name rest ih => exact ih
  have hlast : t.at? (place ++ [name]) = (t.at? place).bind (Entry.child? name) := by
    rw [at?, List.foldl_append]
    rfl
  have hall : t.at? (place ++ name :: rest) = rest.foldl
      (fun found name => found.bind (Entry.child? name)) (t.at? (place ++ [name])) := by
    rw [at?, at?, ← List.foldl_append, List.append_assoc, List.singleton_append]
  cases hchild : t.at? (place ++ [name]) with
  | none =>
    rw [hall, hchild, hnone] at h
    contradiction
  | some child =>
    rw [hlast] at hchild
    obtain ⟨parent, hparent, hname⟩ := Option.bind_eq_some_iff.mp hchild
    cases parent with
    | file content => contradiction
    | link target => contradiction
    | directory entries => exact ⟨entries, child, hparent, hname, rfl⟩

/-- The names on the way to a place where something lies are good ones. -/
theorem isInner_of_at? {t : FileTree} (ht : t.wellNamed = true) {place : List String} {e : Entry}
    (h : t.at? place = some e) : ∀ n ∈ place, (Component.name n).IsInner := by
  intro n hn
  obtain ⟨before, after, rfl⟩ := List.append_of_mem hn
  obtain ⟨entries, child, hbefore, hlookup, -⟩ := exists_lookup_of_at? h
  obtain ⟨-, hentries⟩ := Entry.wellNamed_directory_iff.mp (wellNamed_at? ht hbefore)
  have hmem : (n, child) ∈ entries := by
    obtain ⟨front, back, rfl, -⟩ := List.lookup_eq_some_iff.mp hlookup
    exact List.mem_append_right _ List.mem_cons_self
  exact (hentries _ hmem).1

/-- Names without a link behind them lead to what lies at the place that they name. -/
theorem follow_names {t : FileTree} {e : Entry} (he : ∀ target, e ≠ .link target) (links : Nat)
    {here names : List String} (hnames : ∀ n ∈ names, (Component.name n).IsInner)
    (h : t.at? (here.reverse ++ names) = some e) :
    t.follow links here names = .ok (names.reverse ++ here) := by
  induction names generalizing here with
  | nil =>
    rw [follow]
    rfl
  | cons name rest ih =>
    obtain ⟨hplain, hdots⟩ := ne_of_isInner (hnames name List.mem_cons_self)
    obtain ⟨entries, child, hhere, hlookup, hat⟩ := exists_lookup_of_at? h
    have hchild : ∀ target, child ≠ .link target := by
      rintro target rfl
      cases rest with
      | nil => exact he target (Option.some.inj (h.symm.trans hat))
      | cons next others =>
        rw [← List.singleton_append, ← List.append_assoc] at h
        obtain ⟨below, -, hdirectory, -, -⟩ := exists_lookup_of_at? h
        exact absurd (hat.symm.trans hdirectory) (by simp)
    have hnext : t.follow links (name :: here) rest = .ok (rest.reverse ++ name :: here) := by
      refine ih (fun n hn => hnames n (List.mem_cons_of_mem _ hn)) ?_
      rw [List.reverse_cons, List.append_assoc]
      exact h
    rw [follow, hhere]
    simp only [if_neg hplain, if_neg hdots, hlookup, List.reverse_cons, List.append_assoc,
      List.singleton_append]
    cases child with
    | link target => exact absurd rfl (hchild target)
    | file content => exact hnext
    | directory entries => exact hnext

/-- A path of names from the top leads to the place that they name, if something lies there. -/
theorem resolve_of_at? {t : FileTree} {p : Path} {e : Entry} (names : List String)
    (hpieces : pieces p = "" :: names) (hnames : ∀ n ∈ names, (Component.name n).IsInner)
    (h : t.at? names = some e) (he : ∀ target, e ≠ .link target) (htext : p.text ≠ "") :
    t.resolve p = .ok names := by
  have hempty : ¬p.text.isEmpty = true := fun hempty => htext (String.isEmpty_iff.mp hempty)
  have hfollow : t.follow maxLinks [] (pieces p) = .ok names.reverse := by
    have htop : t.at? List.nil.reverse = some (.directory t.entries) := rfl
    rw [hpieces, follow, htop]
    simp only [true_or, if_true]
    rw [follow_names he maxLinks hnames h, List.append_nil]
  rw [resolve, if_neg hempty, hfollow, Except.map, List.reverse_reverse]

/-- A path of names from the top leads to what lies at the place that they name. -/
theorem find_of_at? {t : FileTree} {p : Path} {e : Entry} (names : List String)
    (hpieces : pieces p = "" :: names) (hnames : ∀ n ∈ names, (Component.name n).IsInner)
    (h : t.at? names = some e) (he : ∀ target, e ≠ .link target) (htext : p.text ≠ "") :
    t.find p = .ok e :=
  find_eq_ok_iff.mpr ⟨names, resolve_of_at? names hpieces hnames h he htext, h⟩

end FileTree

end LayerAudit
