import LayerAudit.Proofs.FileTree.Ways
import Mathlib.Data.List.Induction

/-!
# File trees without some of their files

To take files out of a tree is to leave all directories and links as they are. No way through the
tree is lost by this, except to the files themselves, since a file is where a way ends. So a path
leads to what it led to before, unless that is one of the files that were taken out. To remove a
single file is a case of this.
-/

namespace LayerAudit

namespace Entry

mutual

/-- What is left of an entry without the files at some places below it. -/
def without (gone : List String → Bool) : Entry → Entry
  | .directory entries => .directory (entriesWithout gone entries)
  | e => e

/-- What is left of the entries of a directory without the files at some places. -/
def entriesWithout (gone : List String → Bool) : List (String × Entry) → List (String × Entry)
  | [] => []
  | (name, e) :: rest =>
    if e.isFile && gone [name] then entriesWithout gone rest
    else (name, without (fun place => gone (name :: place)) e) :: entriesWithout gone rest

end

variable {gone : List String → Bool}

/-- From a directory, files are removed entry by entry. -/
theorem without_directory (entries : List (String × Entry)) :
    (directory entries).without gone = directory (entriesWithout gone entries) := by
  rw [without]

/-- A file is removed by the directory that it lies in, not by itself. -/
theorem without_file {content : Content} : (file content).without gone = file content := by
  rw [without]
  exact fun entries => Entry.noConfusion

/-- Links stay. -/
theorem without_link {target : Path} : (link target).without gone = link target := by
  rw [without]
  exact fun entries => Entry.noConfusion

/-- What is left of an entry that is no link is no link. -/
theorem without_ne_link {e : Entry} (h : ∀ target, e ≠ link target) (target : Path) :
    e.without gone ≠ link target := by
  cases e with
  | file content => rw [without_file]; exact Entry.noConfusion
  | directory entries => rw [without_directory]; exact Entry.noConfusion
  | link other => exact absurd rfl (h other)

/-- An entry stays unless it is a file that is taken out, and then it loses what lies below it. -/
theorem entriesWithout_eq_map_filter (entries : List (String × Entry)) :
    entriesWithout gone entries =
      (entries.filter fun e => !(e.2.isFile && gone [e.1])).map fun e =>
        (e.1, e.2.without fun place => gone (e.1 :: place)) := by
  induction entries with
  | nil => rw [entriesWithout, List.filter_nil, List.map_nil]
  | cons e rest ih =>
    rw [entriesWithout, List.filter_cons, ih]
    cases e.2.isFile && gone [e.1] <;> rfl

/-- The entries left in a directory are those that are no file to be removed, without the files to be
removed below them. -/
theorem mem_entriesWithout {entries : List (String × Entry)} {name : String} {left : Entry} :
    (name, left) ∈ entriesWithout gone entries ↔ ∃ e, (name, e) ∈ entries ∧
      (e.isFile && gone [name]) = false ∧ left = e.without fun place => gone (name :: place) := by
  rw [entriesWithout_eq_map_filter, List.mem_map]
  constructor
  · rintro ⟨⟨other, e⟩, hmem, heq⟩
    obtain ⟨hentry, hkept⟩ := List.mem_filter.mp hmem
    obtain ⟨rfl, rfl⟩ := Prod.mk.inj heq
    exact ⟨e, hentry, Bool.not_eq_true' _ ▸ hkept, rfl⟩
  · rintro ⟨e, hentry, hkept, rfl⟩
    exact ⟨(name, e), List.mem_filter.mpr ⟨hentry, by rw [hkept]; rfl⟩, rfl⟩

/-- The names that are left differ if all names do. -/
theorem nodup_entriesWithout {entries : List (String × Entry)} (h : (entries.map Prod.fst).Nodup) :
    ((entriesWithout gone entries).map Prod.fst).Nodup := by
  rw [entriesWithout_eq_map_filter, List.map_map]
  exact h.sublist (List.filter_sublist.map Prod.fst)

/-- What is left is looked up by the names that it had. -/
theorem lookup_entriesWithout {entries : List (String × Entry)} (h : (entries.map Prod.fst).Nodup)
    (name : String) :
    (entriesWithout gone entries).lookup name = (entries.lookup name).bind fun e =>
      if e.isFile && gone [name] then none
      else some (e.without fun place => gone (name :: place)) := by
  refine Option.ext fun left => ?_
  rw [lookup_eq_some_iff_mem (nodup_entriesWithout h), mem_entriesWithout, Option.bind_eq_some_iff]
  refine exists_congr fun e => ?_
  rw [lookup_eq_some_iff_mem h]
  refine and_congr_right fun _ => ?_
  cases e.isFile && gone [name] with
  | false => simp [eq_comm]
  | true => simp

/-- Taking files out leaves good names. -/
theorem wellNamed_without {e : Entry} (he : e.wellNamed = true) :
    (e.without gone).wellNamed = true := by
  induction e generalizing gone with
  | file content => rw [without_file, wellNamed]; exact fun _ => Entry.noConfusion
  | link target => rw [without_link, wellNamed]; exact fun _ => Entry.noConfusion
  | directory entries ih =>
    obtain ⟨hnodup, hentries⟩ := wellNamed_directory_iff.mp he
    rw [without_directory]
    refine wellNamed_directory_iff.mpr ⟨nodup_entriesWithout hnodup, ?_⟩
    rintro ⟨name, left⟩ hleft
    obtain ⟨e, hentry, -, rfl⟩ := mem_entriesWithout.mp hleft
    exact ⟨(hentries _ hentry).1, ih _ hentry (hentries _ hentry).2⟩

/-- Entries stay as they are if nothing is taken out of any of them. -/
theorem entriesWithout_eq_self {entries : List (String × Entry)}
    (h : ∀ e ∈ entries, gone [e.1] = false ∧ e.2.without (fun place => gone (e.1 :: place)) = e.2) :
    entriesWithout gone entries = entries := by
  induction entries with
  | nil => rw [entriesWithout]
  | cons e rest ih =>
    obtain ⟨hkept, hsame⟩ := h e List.mem_cons_self
    rw [entriesWithout, hkept, Bool.and_false, if_neg Bool.false_ne_true, hsame,
      ih fun f hf => h f (List.mem_cons_of_mem _ hf)]

/-- Without any file taken out, an entry stays as it is. -/
theorem without_eq_self {e : Entry} (h : ∀ place, gone place = false) : e.without gone = e := by
  induction e generalizing gone with
  | file content => exact without_file
  | link target => exact without_link
  | directory entries ih =>
    rw [without_directory, entriesWithout_eq_self fun e he =>
      ⟨h [e.1], ih e he fun place => h (e.1 :: place)⟩]

/-- If files are taken out at one name and below it only, what is left is what was there with that
name set to what is left of it. -/
theorem setIn_eq_entriesWithout {entries : List (String × Entry)} {name : String} {e : Entry}
    (hnodup : (entries.map Prod.fst).Nodup) (he : entries.lookup name = some e)
    (hgone : ∀ other place, other ≠ name → gone (other :: place) = false) :
    setIn name (if e.isFile && gone [name] then none
      else some (e.without fun place => gone (name :: place))) entries =
      entriesWithout gone entries := by
  have hsame (f : String × Entry) (hf : f.1 ≠ name) :
      gone [f.1] = false ∧ f.2.without (fun place => gone (f.1 :: place)) = f.2 :=
    ⟨hgone f.1 [] hf, without_eq_self fun place => hgone f.1 place hf⟩
  induction entries with
  | nil => contradiction
  | cons f rest ih =>
    obtain ⟨other, kept⟩ := f
    obtain ⟨hother, hrest⟩ := List.nodup_cons.mp hnodup
    rw [setIn, entriesWithout]
    by_cases hname : other = name
    · subst hname
      obtain rfl : kept = e := by simpa using he
      have hbehind : entriesWithout gone rest = rest := entriesWithout_eq_self fun f hf =>
        hsame f fun heq => hother (List.mem_map.mpr ⟨f, hf, heq⟩)
      rw [if_pos rfl, hbehind]
      cases kept.isFile && gone [other] <;> rfl
    · obtain ⟨hkept, hleft⟩ := hsame (other, kept) hname
      have hlookup : rest.lookup name = some e := by
        rw [List.lookup_cons, beq_eq_false_iff_ne.mpr (Ne.symm hname)] at he
        exact he
      rw [if_neg hname, hkept, Bool.and_false, if_neg Bool.false_ne_true, hleft, ih hrest hlookup]

/-- To remove a file below an entry is to take out the file at that place. -/
theorem setAt_none_eq_without {e : Entry} (he : e.wellNamed = true) {name : String}
    {rest : List String} {content : Content} (h : e.below? (name :: rest) = some (.file content)) :
    e.setAt none (name :: rest) = e.without fun place => decide (place = name :: rest) := by
  induction rest generalizing e name with
  | nil =>
    rw [below?_cons] at h
    obtain ⟨child, hchild, hfile⟩ := Option.bind_eq_some_iff.mp h
    obtain rfl : child = file content := Option.some.inj hfile
    cases e with
    | file content => contradiction
    | link target => contradiction
    | directory entries =>
      obtain ⟨hnodup, -⟩ := wellNamed_directory_iff.mp he
      rw [without_directory, ← setIn_eq_entriesWithout hnodup hchild fun other place hother => by
        simp [hother]]
      simp [setAt, isFile]
  | cons next others ih =>
    rw [below?_cons] at h
    obtain ⟨child, hchild, hfile⟩ := Option.bind_eq_some_iff.mp h
    cases e with
    | file content => contradiction
    | link target => contradiction
    | directory entries =>
      obtain ⟨hnodup, -⟩ := wellNamed_directory_iff.mp he
      rw [without_directory, ← setIn_eq_entriesWithout hnodup hchild fun other place hother => by
        simp [hother]]
      have hlookup : entries.lookup name = some child := hchild
      simp [setAt, hlookup, ih (wellNamed_child? he hchild) hfile]

end Entry

namespace FileTree

/-- The tree without the files at some places. Directories and links at these places stay. -/
def without (t : FileTree) (gone : List String → Bool) : FileTree :=
  ⟨Entry.entriesWithout gone t.entries⟩

variable {t : FileTree} {gone : List String → Bool}

/-- From a tree, files are removed at its top directory. -/
theorem top_without (t : FileTree) (gone : List String → Bool) :
    (t.without gone).top = t.top.without gone := (Entry.without_directory t.entries).symm

/-- Without any file taken out, the tree stays as it is. -/
theorem without_eq_self (h : ∀ place, gone place = false) : t.without gone = t := by
  have htop : (t.without gone).top = t.top := by
    rw [top_without, Entry.without_eq_self h]
  exact congrArg FileTree.mk (Entry.directory.inj htop)

/-- Taking files out leaves good names. -/
theorem wellNamed_without (ht : t.wellNamed = true) : (t.without gone).wellNamed = true := by
  rw [wellNamed, top_without]
  exact Entry.wellNamed_without ht

/-- At a place lies what was there, unless it is a file that was taken out. -/
theorem at?_without (ht : t.wellNamed = true) (place : List String) :
    (t.without gone).at? place = (t.at? place).bind fun e =>
      if e.isFile && gone place then none else some (e.without fun rest => gone (place ++ rest)) := by
  induction place using List.reverseRecOn with
  | nil => exact congrArg some (top_without t gone)
  | append_singleton place name ih =>
    rw [at?_concat, at?_concat, ih]
    cases hat : t.at? place with
    | none => rfl
    | some e =>
      cases e with
      | file content => cases gone place <;> rfl
      | link target => rfl
      | directory entries =>
        obtain ⟨hnodup, -⟩ := Entry.wellNamed_directory_iff.mp (wellNamed_at? ht hat)
        change (Entry.entriesWithout _ entries).lookup name = (entries.lookup name).bind _
        simp only [Entry.lookup_entriesWithout hnodup, List.append_assoc, List.singleton_append]

/-- What is left at a place was there, and is no file that was taken out. -/
theorem at?_without_eq_some_iff (ht : t.wellNamed = true) {place : List String} {left : Entry} :
    (t.without gone).at? place = some left ↔ ∃ e, t.at? place = some e ∧
      (e.isFile && gone place) = false ∧ left = e.without fun rest => gone (place ++ rest) := by
  rw [at?_without ht, Option.bind_eq_some_iff]
  refine exists_congr fun e => and_congr_right fun _ => ?_
  cases e.isFile && gone place with
  | false => simp [eq_comm]
  | true => simp

/-- To remove the file at a place is to take out the file at that place. -/
theorem setAt_none_eq_without (ht : t.wellNamed = true) {place : List String} {content : Content}
    (h : t.at? place = some (.file content)) :
    t.setAt place none = t.without fun other => decide (other = place) := by
  cases place with
  | nil => exact absurd (Option.some.inj h) Entry.noConfusion
  | cons name rest =>
    have hset := Entry.setAt_none_eq_without (e := t.top) ht h
    rw [← top_without] at hset
    rw [setAt, hset]
    rfl

/-- Where a directory is left, there was one. -/
theorem exists_directory_of_at?_without (ht : t.wellNamed = true) {place : List String}
    {left : List (String × Entry)} (h : (t.without gone).at? place = some (.directory left)) :
    ∃ entries, t.at? place = some (.directory entries) := by
  obtain ⟨e, hat, -, heq⟩ := (at?_without_eq_some_iff ht).mp h
  cases e with
  | file content => rw [Entry.without_file] at heq; contradiction
  | link target => rw [Entry.without_link] at heq; contradiction
  | directory entries => exact ⟨entries, hat⟩

/-- Where a directory was, one is left. -/
theorem exists_at?_without_directory (ht : t.wellNamed = true) {place : List String}
    {entries : List (String × Entry)} (h : t.at? place = some (.directory entries)) :
    ∃ left, (t.without gone).at? place = some (.directory left) :=
  ⟨_, (at?_without_eq_some_iff ht).mpr ⟨_, h, rfl, (Entry.without_directory entries).symm⟩⟩

/-- Links stay. -/
theorem at?_without_link_iff (ht : t.wellNamed = true) {place : List String} {target : Path} :
    (t.without gone).at? place = some (.link target) ↔ t.at? place = some (.link target) := by
  rw [at?_without_eq_some_iff ht]
  constructor
  · rintro ⟨e, hat, -, heq⟩
    cases e with
    | file content => rw [Entry.without_file] at heq; contradiction
    | directory entries => rw [Entry.without_directory] at heq; contradiction
    | link other => rwa [heq, Entry.without_link]
  · exact fun hat => ⟨_, hat, rfl, Entry.without_link.symm⟩

/-- The files that are not taken out stay. -/
theorem at?_without_file_iff (ht : t.wellNamed = true) {place : List String} {content : Content} :
    (t.without gone).at? place = some (.file content) ↔
      t.at? place = some (.file content) ∧ gone place = false := by
  rw [at?_without_eq_some_iff ht]
  constructor
  · rintro ⟨e, hat, hkept, heq⟩
    cases e with
    | file other => rw [heq, Entry.without_file]; exact ⟨hat, hkept⟩
    | directory entries => rw [Entry.without_directory] at heq; contradiction
    | link target => rw [Entry.without_link] at heq; contradiction
  · exact fun ⟨hat, hkept⟩ => ⟨_, hat, hkept, Entry.without_file.symm⟩

/-- A file is where a way ends. -/
theorem Leads.ends_at_file {links : Nat} {here pending place : List String}
    (h : t.Leads links here pending place) {content : Content}
    (hfile : t.at? here.reverse = some (.file content)) : pending = [] ∧ place = here := by
  have hnot {entries : List (String × Entry)} :
      t.at? here.reverse ≠ some (.directory entries) := by simp [hfile]
  cases h with
  | arrived => exact ⟨rfl, rfl⟩
  | stay hhere _ _ => exact absurd hhere hnot
  | up hhere _ => exact absurd hhere hnot
  | jump _ hat _ | down _ hat _ _ =>
    obtain ⟨entries, hhere, -⟩ := exists_directory_of_at?_concat hat
    exact absurd hhere hnot

/-- A way through what is left was there. -/
theorem Leads.of_without (ht : t.wellNamed = true) {links : Nat} {here pending place : List String}
    (h : (t.without gone).Leads links here pending place) : t.Leads links here pending place := by
  induction h with
  | arrived => exact .arrived
  | stay hhere hpiece _ ih =>
    obtain ⟨entries, hwas⟩ := exists_directory_of_at?_without ht hhere
    exact .stay hwas hpiece ih
  | up hhere _ ih =>
    obtain ⟨entries, hwas⟩ := exists_directory_of_at?_without ht hhere
    exact .up hwas ih
  | jump hpiece hat _ ih => exact .jump hpiece ((at?_without_link_iff ht).mp hat) ih
  | down hpiece hat hchild _ ih =>
    obtain ⟨e, hwas, -, heq⟩ := (at?_without_eq_some_iff ht).mp hat
    refine .down hpiece hwas (fun target hlink => hchild target ?_) ih
    rw [heq, hlink, Entry.without_link]

/-- A way is left unless it is one to a file that was taken out. -/
theorem Leads.without (ht : t.wellNamed = true) {links : Nat} {here pending place : List String}
    (h : t.Leads links here pending place)
    (hkept : ∀ content, t.at? place.reverse = some (.file content) → gone place.reverse = false) :
    (t.without gone).Leads links here pending place := by
  induction h with
  | arrived => exact .arrived
  | stay hhere hpiece _ ih =>
    obtain ⟨left, hleft⟩ := exists_at?_without_directory ht hhere
    exact .stay hleft hpiece (ih hkept)
  | up hhere _ ih =>
    obtain ⟨left, hleft⟩ := exists_at?_without_directory ht hhere
    exact .up hleft (ih hkept)
  | jump hpiece hat _ ih => exact .jump hpiece ((at?_without_link_iff ht).mpr hat) (ih hkept)
  | @down links here rest place piece child hpiece hat hchild hrest ih =>
    have hconcat : (piece :: here).reverse = here.reverse ++ [piece] := List.reverse_cons
    cases child with
    | link target => exact absurd rfl (hchild target)
    | directory entries =>
      obtain ⟨left, hleft⟩ := exists_at?_without_directory ht hat
      exact .down hpiece hleft (fun _ => Entry.noConfusion) (ih hkept)
    | file content =>
      -- the way ends here, so this is the file that must be kept
      have hend : place = piece :: here := (hrest.ends_at_file (hconcat ▸ hat)).2
      have hstays : gone (here.reverse ++ [piece]) = false := by
        rw [hend, hconcat] at hkept
        exact hkept content hat
      exact .down hpiece ((at?_without_file_iff ht).mpr ⟨hat, hstays⟩) hchild (ih hkept)

/-- Where a path leads in what is left, it led before. -/
theorem resolve_of_without (ht : t.wellNamed = true) {p : Path} {place : List String}
    (h : (t.without gone).resolve p = .ok place) : t.resolve p = .ok place := by
  obtain ⟨htext, hway⟩ := resolve_eq_ok_iff.mp h
  exact resolve_eq_ok_iff.mpr ⟨htext, hway.of_without ht⟩

/-- A path leads where it led before unless that is a file that was taken out. -/
theorem resolve_without (ht : t.wellNamed = true) {p : Path} {place : List String}
    (h : t.resolve p = .ok place)
    (hkept : ∀ content, t.at? place = some (.file content) → gone place = false) :
    (t.without gone).resolve p = .ok place := by
  obtain ⟨htext, hway⟩ := resolve_eq_ok_iff.mp h
  refine resolve_eq_ok_iff.mpr ⟨htext, hway.without ht fun content hfile => ?_⟩
  rw [List.reverse_reverse] at hfile ⊢
  exact hkept content hfile

/-- What a path leads to in what is left: what it led to before, less what was taken out of it, unless
it is itself a file that was taken out. -/
theorem find_without_eq_ok_iff (ht : t.wellNamed = true) {p : Path} {left : Entry} :
    (t.without gone).find p = .ok left ↔ ∃ place e, t.resolve p = .ok place ∧
      t.at? place = some e ∧ (e.isFile && gone place) = false ∧
      left = e.without fun rest => gone (place ++ rest) := by
  rw [find_eq_ok_iff]
  refine exists_congr fun place => ?_
  rw [at?_without_eq_some_iff ht]
  constructor
  · rintro ⟨hplace, e, he⟩
    exact ⟨e, resolve_of_without ht hplace, he⟩
  · rintro ⟨e, hplace, hat, hkept, rfl⟩
    refine ⟨resolve_without ht hplace fun content hfile => ?_, e, hat, hkept, rfl⟩
    obtain rfl := Option.some.inj (hat.symm.trans hfile)
    exact hkept

/-- A path leads to a file in what is left if it led to that file, and the file stays. -/
theorem find_without_eq_file_iff (ht : t.wellNamed = true) {p : Path} {content : Content} :
    (t.without gone).find p = .ok (.file content) ↔ ∃ place, t.resolve p = .ok place ∧
      t.at? place = some (.file content) ∧ gone place = false := by
  rw [find_eq_ok_iff]
  refine exists_congr fun place => ?_
  rw [at?_without_file_iff ht]
  constructor
  · rintro ⟨hplace, hat⟩
    exact ⟨resolve_of_without ht hplace, hat⟩
  · rintro ⟨hplace, hat, hkept⟩
    exact ⟨resolve_without ht hplace fun _ _ => hkept, hat, hkept⟩

/-- A file that stays is read as before, whether it can be read or not. -/
theorem read_without (ht : t.wellNamed = true) {p : Path} (h : (t.without gone).isFile p = true) :
    (t.without gone).read p = t.read p := by
  obtain ⟨content, hfind⟩ := isFile_iff.mp h
  obtain ⟨place, hplace, hat, -⟩ := (find_without_eq_file_iff ht).mp hfind
  rw [read_of_find hfind, read_of_find (find_eq_ok_iff.mpr ⟨place, hplace, hat⟩)]

/-- A path that leads to a directory does so whatever files are taken out. -/
theorem isDirectory_without (ht : t.wellNamed = true) (p : Path) :
    (t.without gone).isDirectory p = t.isDirectory p := by
  rw [Bool.eq_iff_iff, isDirectory_iff, isDirectory_iff]
  constructor
  · rintro ⟨left, hfind⟩
    obtain ⟨place, hplace, hleft⟩ := find_eq_ok_iff.mp hfind
    obtain ⟨entries, hat⟩ := exists_directory_of_at?_without ht hleft
    exact ⟨entries, find_eq_ok_iff.mpr ⟨place, resolve_of_without ht hplace, hat⟩⟩
  · rintro ⟨entries, hfind⟩
    obtain ⟨place, hplace, hat⟩ := find_eq_ok_iff.mp hfind
    obtain ⟨left, hleft⟩ : ∃ left, (t.without gone).at? place = some (.directory left) :=
      exists_at?_without_directory ht hat
    have hstays : (t.without gone).resolve p = .ok place :=
      resolve_without ht hplace fun content hfile => by simp [hat] at hfile
    exact ⟨left, find_eq_ok_iff.mpr ⟨place, hstays, hleft⟩⟩

/-- Whether a place lies below the one that a path leads to. -/
def IsBelow (t : FileTree) (p : Path) (place : List String) : Prop :=
  ∃ base name rest, t.resolve p = .ok base ∧ place = base ++ name :: rest

/-- A path leads to no place below itself. -/
theorem not_isBelow_of_resolve {p : Path} {place : List String} (h : t.resolve p = .ok place) :
    ¬t.IsBelow p place := by
  rintro ⟨base, name, rest, hbase, hplace⟩
  obtain rfl : place = base := Except.ok.inj (h.symm.trans hbase)
  exact absurd (List.self_eq_append_right.mp hplace) (List.cons_ne_nil name rest)

/-- What lies below a path in one tree does so in another one that differs from it only in files that
do. -/
theorem IsBelow.of_without_eq {other : FileTree} (ht : t.wellNamed = true)
    (hother : other.wellNamed = true) (hsame : other.without gone = t.without gone) {p : Path}
    (hgone : ∀ place, gone place = true → t.IsBelow p place) {place : List String}
    (h : t.IsBelow p place) : other.IsBelow p place := by
  obtain ⟨base, name, rest, hbase, hplace⟩ := h
  have hstays : gone base = false := by
    rw [← Bool.not_eq_true]
    exact fun hbaseGone => not_isBelow_of_resolve hbase (hgone base hbaseGone)
  have hleft : (t.without gone).resolve p = .ok base := resolve_without ht hbase fun _ _ => hstays
  exact ⟨base, name, rest, resolve_of_without hother (hsame ▸ hleft), hplace⟩

end FileTree

end LayerAudit
