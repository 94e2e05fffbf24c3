import LayerAudit.Proofs.Except
import LayerAudit.Proofs.FileTree.Names
import LayerAudit.Proofs.Path.Descent

/-!
# Ways through a file tree

To follow the pieces of a path step by step is to go a way: a piece stays, goes up or down, or jumps
to where a link leads. A path is resolved exactly if there is a way along its pieces, so what holds of
resolved paths is shown by induction on ways.

A way goes on by names as long as they are there, whatever links it came by. So a path that goes down
from another one leads to what lies below the place of that one.
-/

namespace LayerAudit

namespace Path

/-- Between two components stands one slash, so what they are written with is what is read. -/
theorem segments_joined {cs : List Component} (hne : cs ≠ [])
    (hcs : ∀ c ∈ cs, '/' ∉ c.text.toList) : segments (joined cs) = cs.map (·.text.toList) := by
  induction cs with
  | nil => contradiction
  | cons c cs ih =>
    have hc := hcs c List.mem_cons_self
    cases cs with
    | nil => rw [joined_singleton, segments_of_not_mem hc, List.map_singleton]
    | cons d rest =>
      rw [joined_cons c (List.cons_ne_nil d rest), segments_append_slash, segments_of_not_mem hc,
        ih (List.cons_ne_nil d rest) fun e he => hcs e (List.mem_cons_of_mem _ he)]
      rfl

end Path

namespace Entry

/-- The entry that names lead down to. -/
def below? (e : Entry) (names : List String) : Option Entry :=
  names.foldl (fun found name => found.bind (child? name)) (some e)

/-- No names lead to the entry itself. -/
theorem below?_nil (e : Entry) : e.below? [] = some e := rfl

/-- The first name leads to an entry, and the others on from there. -/
theorem below?_cons (e : Entry) (name : String) (rest : List String) :
    e.below? (name :: rest) = (e.child? name).bind fun child => child.below? rest := by
  rw [below?, List.foldl_cons, Option.bind_some]
  cases e.child? name with
  | some child => rfl
  | none =>
    induction rest with
    | nil => rfl
    | cons next rest ih => exact ih

end Entry

namespace FileTree

/-- What lies at a place below another one lies below what is there. -/
theorem at?_append (t : FileTree) (place names : List String) :
    t.at? (place ++ names) = (t.at? place).bind fun e => e.below? names := by
  rw [at?, List.foldl_append, ← at?]
  cases t.at? place with
  | some e => rfl
  | none =>
    induction names with
    | nil => rfl
    | cons name names ih => exact ih

/-- A name at the end leads to an entry of what is there. -/
theorem at?_concat (t : FileTree) (place : List String) (name : String) :
    t.at? (place ++ [name]) = (t.at? place).bind (Entry.child? name) := by
  rw [at?, List.foldl_append]
  rfl

/-- Only in a directory there is something of a name. -/
theorem exists_directory_of_at?_concat {t : FileTree} {place : List String} {name : String}
    {e : Entry} (h : t.at? (place ++ [name]) = some e) :
    ∃ entries, t.at? place = some (.directory entries) ∧ entries.lookup name = some e := by
  obtain ⟨entries, child, hplace, hlookup, hat⟩ := exists_lookup_of_at? h
  exact ⟨entries, hplace, hlookup.trans (hat.symm.trans h)⟩

/-- Whether a piece of a path is a name, and not one that stays or goes up. -/
def IsName (piece : String) : Prop := ¬(piece = "" ∨ piece = ".") ∧ piece ≠ ".."

instance (piece : String) : Decidable (IsName piece) := inferInstanceAs (Decidable (_ ∧ _))

/-- A way along pieces from a directory to a place, both given by names with the last first. The
number bounds the links on the way. -/
inductive Leads (t : FileTree) : Nat → List String → List String → List String → Prop
  | arrived {links : Nat} {here : List String} : Leads t links here [] here
  | stay {links : Nat} {here rest place : List String} {piece : String}
      {entries : List (String × Entry)} (hhere : t.at? here.reverse = some (.directory entries))
      (hpiece : piece = "" ∨ piece = ".") (hrest : Leads t links here rest place) :
      Leads t links here (piece :: rest) place
  | up {links : Nat} {here rest place : List String} {entries : List (String × Entry)}
      (hhere : t.at? here.reverse = some (.directory entries))
      (hrest : Leads t links (here.drop 1) rest place) : Leads t links here (".." :: rest) place
  | jump {links : Nat} {here rest place : List String} {piece : String} {target : Path}
      (hpiece : IsName piece) (hat : t.at? (here.reverse ++ [piece]) = some (.link target))
      (hrest : Leads t links (if target.isAbsolute then [] else here) (pieces target ++ rest) place) :
      Leads t (links + 1) here (piece :: rest) place
  | down {links : Nat} {here rest place : List String} {piece : String} {child : Entry}
      (hpiece : IsName piece) (hat : t.at? (here.reverse ++ [piece]) = some child)
      (hchild : ∀ target, child ≠ .link target) (hrest : Leads t links (piece :: here) rest place) :
      Leads t links here (piece :: rest) place

section Steps

variable {t : FileTree} {links : Nat} {here rest : List String} {piece : String}

/-- A piece that stays is passed over. -/
theorem follow_stay {entries : List (String × Entry)}
    (hhere : t.at? here.reverse = some (.directory entries)) (hpiece : piece = "" ∨ piece = ".") :
    t.follow links here (piece :: rest) = t.follow links here rest := by
  rw [follow, hhere]
  simp only [if_pos hpiece]

/-- Two dots lead to the directory above. -/
theorem follow_up {entries : List (String × Entry)}
    (hhere : t.at? here.reverse = some (.directory entries)) :
    t.follow links here (".." :: rest) = t.follow links (here.drop 1) rest := by
  rw [follow, hhere]
  simp only [if_neg (by decide : ¬(".." = "" ∨ ".." = ".")), if_pos]

/-- The name of a link leads on by the pieces of its target. -/
theorem follow_link {target : Path} (hpiece : IsName piece)
    (hat : t.at? (here.reverse ++ [piece]) = some (.link target)) :
    t.follow (links + 1) here (piece :: rest) =
      t.follow links (if target.isAbsolute then [] else here) (pieces target ++ rest) := by
  obtain ⟨entries, hhere, hlookup⟩ := exists_directory_of_at?_concat hat
  rw [follow, hhere]
  simp only [if_neg hpiece.1, if_neg hpiece.2, hlookup]

/-- The name of a link leads nowhere if no more links are allowed. -/
theorem follow_link_zero {target : Path} (hpiece : IsName piece)
    (hat : t.at? (here.reverse ++ [piece]) = some (.link target)) :
    t.follow 0 here (piece :: rest) = .error .tooManyLinks := by
  obtain ⟨entries, hhere, hlookup⟩ := exists_directory_of_at?_concat hat
  rw [follow, hhere]
  simp only [if_neg hpiece.1, if_neg hpiece.2, hlookup]

/-- The name of anything else leads down to it. -/
theorem follow_down {child : Entry} (hpiece : IsName piece)
    (hat : t.at? (here.reverse ++ [piece]) = some child) (hchild : ∀ target, child ≠ .link target) :
    t.follow links here (piece :: rest) = t.follow links (piece :: here) rest := by
  obtain ⟨entries, hhere, hlookup⟩ := exists_directory_of_at?_concat hat
  rw [follow, hhere]
  simp only [if_neg hpiece.1, if_neg hpiece.2, hlookup]

end Steps

/-- Whatever is followed successfully is a way. -/
theorem leads_of_follow {t : FileTree} {links : Nat} {here pending place : List String}
    (h : t.follow links here pending = .ok place) : t.Leads links here pending place := by
  induction links using Nat.strongRecOn generalizing here pending with
  | _ links hlinks =>
    induction pending generalizing here with
    | nil =>
      rw [follow] at h
      exact Except.ok.inj h ▸ .arrived
    | cons piece rest ih =>
      rw [follow] at h
      split at h
      next entries hhere =>
        have hat (e : Entry) (hlookup : entries.lookup piece = some e) :
            t.at? (here.reverse ++ [piece]) = some e := by
          rw [at?_concat, hhere]
          exact hlookup
        split at h
        next hpiece => exact .stay hhere hpiece (ih h)
        next hpiece =>
          split at h
          next hdots => exact hdots ▸ .up hhere (ih h)
          next hdots =>
            split at h
            next => contradiction
            next target hlookup =>
              cases links with
              | zero => contradiction
              | succ links =>
                exact .jump ⟨hpiece, hdots⟩ (hat _ hlookup) (hlinks links (Nat.lt_succ_self links) h)
            next child hchild hlookup =>
              exact .down ⟨hpiece, hdots⟩ (hat _ hlookup) (fun target heq => hchild target heq) (ih h)
      next => contradiction

/-- A way is followed. -/
theorem Leads.follow_eq {t : FileTree} {links : Nat} {here pending place : List String}
    (h : t.Leads links here pending place) : t.follow links here pending = .ok place := by
  induction h with
  | arrived => rw [follow]
  | stay hhere hpiece _ ih => rw [follow_stay hhere hpiece, ih]
  | up hhere _ ih => rw [follow_up hhere, ih]
  | jump hpiece hat _ ih => rw [follow_link hpiece hat, ih]
  | down hpiece hat hchild _ ih => rw [follow_down hpiece hat hchild, ih]

/-- To follow a path is to go a way. -/
theorem follow_eq_ok_iff {t : FileTree} {links : Nat} {here pending place : List String} :
    t.follow links here pending = .ok place ↔ t.Leads links here pending place :=
  ⟨leads_of_follow, Leads.follow_eq⟩

/-- A way goes on by names to what lies there. -/
theorem Leads.append_names {t : FileTree} {links : Nat} {here pending place names : List String}
    {e : Entry} (h : t.Leads links here pending place)
    (hnames : ∀ n ∈ names, (Component.name n).IsInner)
    (hat : t.at? (place.reverse ++ names) = some e) (he : ∀ target, e ≠ .link target) :
    t.Leads links here (pending ++ names) (names.reverse ++ place) := by
  induction h with
  | arrived => exact leads_of_follow (follow_names he _ hnames hat)
  | stay hhere hpiece _ ih => exact .stay hhere hpiece (ih hat)
  | up hhere _ ih => exact .up hhere (ih hat)
  | jump hpiece hlink _ ih =>
    have hrest := ih hat
    rw [List.append_assoc] at hrest
    exact .jump hpiece hlink hrest
  | down hpiece hnext hchild _ ih => exact .down hpiece hnext hchild (ih hat)

/-- A slash at the end leads nowhere else. -/
theorem Leads.of_append_empty {t : FileTree} {links : Nat} {here pending place : List String}
    (h : t.Leads links here (pending ++ [""]) place) : t.Leads links here pending place := by
  generalize hall : pending ++ [""] = all at h
  induction h generalizing pending with
  | arrived => simp at hall
  | stay hhere hpiece hrest ih =>
    cases pending with
    | nil =>
      obtain ⟨-, rfl⟩ := List.cons.inj hall
      exact hrest
    | cons piece rest =>
      obtain ⟨rfl, rfl⟩ := List.cons.inj hall
      exact .stay hhere hpiece (ih rfl)
  | up hhere _ ih =>
    cases pending with
    | nil => simp at hall
    | cons piece rest =>
      obtain ⟨rfl, rfl⟩ := List.cons.inj hall
      exact .up hhere (ih rfl)
  | jump hpiece hlink _ ih =>
    cases pending with
    | nil => exact absurd (Or.inl (List.cons.inj hall).1.symm) hpiece.1
    | cons piece rest =>
      obtain ⟨rfl, rfl⟩ := List.cons.inj hall
      exact .jump hpiece hlink (ih (List.append_assoc _ _ _))
  | down hpiece hnext hchild _ ih =>
    cases pending with
    | nil => exact absurd (Or.inl (List.cons.inj hall).1.symm) hpiece.1
    | cons piece rest =>
      obtain ⟨rfl, rfl⟩ := List.cons.inj hall
      exact .down hpiece hnext hchild (ih rfl)

/-- What stands with slashes between it are the pieces. -/
theorem pieces_intercalate {names : List String} (hne : names ≠ [])
    (hslash : ∀ n ∈ names, '/' ∉ n.toList) : pieces ⟨String.intercalate "/" names⟩ = names := by
  have hchars : (String.intercalate "/" names).toList = Path.joined (names.map .name) := by
    simp [Path.joined, Component.text, Function.comp_def]
  have hcomponents : ∀ c ∈ names.map Component.name, '/' ∉ c.text.toList := by
    intro c hc
    obtain ⟨n, hn, rfl⟩ := List.mem_map.mp hc
    exact hslash n hn
  rw [pieces, hchars, Path.segments_joined (by simpa using hne) hcomponents]
  simp [Component.text, Function.comp_def]

/-- The pieces of names with slashes between them are the names. -/
theorem pieces_names {names : List String} (hne : names ≠ [])
    (hnames : ∀ n ∈ names, (Component.name n).IsInner) :
    pieces ⟨String.intercalate "/" names⟩ = names :=
  pieces_intercalate hne fun n hn => (hnames n hn).1

/-- The pieces of what is joined to a path come behind its own, less a slash at its end. -/
theorem pieces_join {p q : Path} (hp : p.text ≠ "") (hq : q.isAbsolute = false) :
    ∃ front, (pieces p = front ∨ pieces p = front ++ [""]) ∧
      pieces (p.join q) = front ++ pieces q := by
  have hchars : p.text.toList ≠ [] := fun h => hp (String.toList_inj.mp h)
  rw [Path.join, hq, if_neg Bool.false_ne_true]
  split
  next hlast => exact absurd (List.getLast?_eq_none_iff.mp hlast) hchars
  next hlast =>
    obtain ⟨before, hbefore⟩ := List.getLast?_eq_some_iff.mp hlast
    refine ⟨(Path.segments before).map String.ofList, Or.inr ?_, ?_⟩
    · rw [pieces, hbefore, Path.segments_append_slash, List.map_append]
      rfl
    · rw [pieces, String.toList_append, hbefore, List.append_assoc, List.singleton_append,
        Path.segments_append_slash, List.map_append]
      rfl
  next =>
    refine ⟨pieces p, Or.inl rfl, ?_⟩
    have htext : (p.text ++ "/" ++ q.text).toList = p.text.toList ++ '/' :: q.text.toList := by
      simp
    rw [pieces, htext, Path.segments_append_slash, List.map_append]
    rfl

/-- A path is resolved by a way along its pieces. -/
theorem resolve_eq_ok_iff {t : FileTree} {p : Path} {place : List String} :
    t.resolve p = .ok place ↔ p.text ≠ "" ∧ t.Leads maxLinks [] (pieces p) place.reverse := by
  rw [resolve, ← follow_eq_ok_iff]
  by_cases hempty : p.text = ""
  · simp [hempty]
  · have hnot : ¬p.text.isEmpty = true := fun h => hempty (String.isEmpty_iff.mp h)
    rw [if_neg hnot]
    cases hfollow : t.follow maxLinks [] (pieces p) with
    | error fault => simp [Except.map]
    | ok found =>
      simp only [Except.map, Except.ok.injEq, ne_eq, hempty, not_false_eq_true, true_and]
      exact List.reverse_eq_iff

/-- A path that is written leads nowhere for the reason for which its pieces do. -/
theorem resolve_eq_error_iff {t : FileTree} {p : Path} {fault : PathFault} (htext : p.text ≠ "") :
    t.resolve p = .error fault ↔ t.follow maxLinks [] (pieces p) = .error fault := by
  have hnot : ¬p.text.isEmpty = true := fun hempty => htext (String.isEmpty_iff.mp hempty)
  rw [resolve, if_neg hnot]
  cases t.follow maxLinks [] (pieces p) <;> simp [Except.map]

/-- A path that goes down from another one leads to what lies below the place of that one. -/
theorem resolve_descend {t : FileTree} {root : Path} {base names : List String} {e : Entry}
    (hroot : t.resolve root = .ok base) (hnames : ∀ n ∈ names, (Component.name n).IsInner)
    (hat : t.at? (base ++ names) = some e) (he : ∀ target, e ≠ .link target) :
    t.resolve (root.descend names) = .ok (base ++ names) := by
  by_cases hne : names = []
  · rw [hne, List.append_nil]
    exact hroot
  · obtain ⟨htext, hway⟩ := resolve_eq_ok_iff.mp hroot
    obtain ⟨front, hfront, hpieces⟩ := pieces_join htext (Path.isAbsolute_names hnames)
    have hbase : t.Leads maxLinks [] front base.reverse := by
      rcases hfront with h | h
      · exact h ▸ hway
      · exact (h ▸ hway).of_append_empty
    rw [Path.descend_eq_join hne hnames]
    refine resolve_eq_ok_iff.mpr ⟨Path.text_join_ne_empty htext (Path.isAbsolute_names hnames), ?_⟩
    rw [hpieces, pieces_names hne hnames, List.reverse_append]
    exact hbase.append_names hnames (by rwa [List.reverse_reverse]) he

/-- The path leads to the entry itself. -/
theorem find_descend {t : FileTree} {root : Path} {base names : List String} {e : Entry}
    (hroot : t.resolve root = .ok base) (hnames : ∀ n ∈ names, (Component.name n).IsInner)
    (hat : t.at? (base ++ names) = some e) (he : ∀ target, e ≠ .link target) :
    t.find (root.descend names) = .ok e :=
  find_eq_ok_iff.mpr ⟨_, resolve_descend hroot hnames hat he, hat⟩

/-- At a path that leads to a file, what the file holds is read. -/
theorem read_of_find {t : FileTree} {p : Path} {content : Content}
    (h : t.find p = .ok (.file content)) : t.read p = content.mapError .unreadable := by
  rw [read, h]
  rfl

/-- Bytes are read at a path if it leads to a file that holds them. -/
theorem read_eq_ok_iff {t : FileTree} {p : Path} {bytes : List UInt8} :
    t.read p = .ok bytes ↔ t.find p = .ok (.file bytes) := by
  cases hfind : t.find p with
  | error fault => simp [read, hfind, bind, Except.bind]
  | ok e =>
    cases e with
    | file content => rw [read_of_find hfind, mapError_eq_ok_iff, Except.ok.injEq, Entry.file.injEq]
    | directory entries | link target =>
      simp [read, hfind, bind, Except.bind, throw, throwThe, MonadExceptOf.throw]

/-- Whether a path leads to a file is told by what it leads to, and not by whether it can be read. -/
theorem isFile_iff {t : FileTree} {p : Path} :
    t.isFile p = true ↔ ∃ content, t.find p = .ok (.file content) := by
  rw [isFile]
  cases t.find p with
  | error fault => simp [Except.toOption]
  | ok e => cases e <;> simp [Except.toOption, Entry.isFile]

/-- What is read is a file. -/
theorem isFile_of_read {t : FileTree} {p : Path} {bytes : List UInt8} (h : t.read p = .ok bytes) :
    t.isFile p = true := isFile_iff.mpr ⟨bytes, read_eq_ok_iff.mp h⟩

/-- A path that leads nowhere leads to no file. -/
theorem isFile_eq_false {t : FileTree} {p : Path} (h : t.holds p = false) : t.isFile p = false := by
  rw [← Bool.not_eq_true]
  intro hfile
  obtain ⟨content, hfind⟩ := isFile_iff.mp hfile
  rw [holds, hfind] at h
  contradiction

/-- Whether a path leads to a directory is told by what it leads to. -/
theorem isDirectory_iff {t : FileTree} {p : Path} :
    t.isDirectory p = true ↔ ∃ entries, t.find p = .ok (.directory entries) := by
  rw [isDirectory]
  cases t.find p with
  | error fault => simp [Except.toOption]
  | ok e => cases e <;> simp [Except.toOption, Entry.isDirectory]

/-- A file below the place of a path is read by going down to it. -/
theorem read_descend {t : FileTree} {root : Path} {base names : List String} {content : Content}
    (hroot : t.resolve root = .ok base) (hnames : ∀ n ∈ names, (Component.name n).IsInner)
    (hat : t.at? (base ++ names) = some (.file content)) :
    t.read (root.descend names) = content.mapError .unreadable :=
  read_of_find (find_descend hroot hnames hat fun _ => Entry.noConfusion)

end FileTree

end LayerAudit
