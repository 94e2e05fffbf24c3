import LayerAudit.Proofs.FileTree.Writing

/-!
# Where a new file is made

Main statement: after a file is written to a path that led nowhere, the path leads to it, and without it
the tree is what it was. This holds of paths whose last piece is a link that leads nowhere, too: the
file is made where the link points, through further links if need be.

That the path leads to the file is shown in two steps. There is a way to it, with any number of links;
and since the path led nowhere for want of the file and not for too many links, the way to the file
takes no more links than are allowed.
-/

namespace LayerAudit.FileTree

variable {t more : FileTree} {gone : List String → Bool} {p : Path}

/-- Whether there is a way along pieces to a place, however many links are on it. -/
def Reaches (t : FileTree) (here pending place : List String) : Prop :=
  ∃ links, t.follow links here pending = .ok place

/-- The name of a link leads to wherever its target leads. -/
theorem reaches_link_iff {here rest place : List String} {piece : String} {target : Path}
    (hpiece : IsName piece) (hat : t.at? (here.reverse ++ [piece]) = some (.link target)) :
    t.Reaches here (piece :: rest) place ↔
      t.Reaches (if target.isAbsolute then [] else here) (pieces target ++ rest) place := by
  constructor
  · rintro ⟨links, h⟩
    cases links with
    | zero =>
      rw [follow_link_zero hpiece hat] at h
      contradiction
    | succ links => exact ⟨links, follow_link hpiece hat ▸ h⟩
  · rintro ⟨links, h⟩
    exact ⟨links + 1, (follow_link hpiece hat).trans h⟩

/-- A way goes on from its end. -/
theorem Leads.reaches_append_iff {links : Nat} {here front middle rest place : List String}
    (h : t.Leads links here front middle) :
    t.Reaches here (front ++ rest) place ↔ t.Reaches middle rest place := by
  induction h with
  | arrived => rfl
  | stay hhere hpiece _ ih =>
    rw [← ih]
    exact exists_congr fun links => by rw [List.cons_append, follow_stay hhere hpiece]
  | up hhere _ ih =>
    rw [← ih]
    exact exists_congr fun links => by rw [List.cons_append, follow_up hhere]
  | jump hpiece hat _ ih =>
    rw [← ih, List.cons_append, reaches_link_iff hpiece hat, List.append_assoc]
  | down hpiece hat hchild _ ih =>
    rw [← ih]
    exact exists_congr fun links => by rw [List.cons_append, follow_down hpiece hat hchild]

/-- A way ends where something lies that is no link, if it starts at such a place. -/
theorem Leads.exists_at? {links : Nat} {here pending place : List String}
    (h : t.Leads links here pending place)
    (hhere : ∃ e, t.at? here.reverse = some e ∧ ∀ target, e ≠ .link target) :
    ∃ e, t.at? place.reverse = some e ∧ ∀ target, e ≠ .link target := by
  induction h with
  | arrived => exact hhere
  | stay _ _ _ ih => exact ih hhere
  | @up links here _ _ _ _ _ ih =>
    refine ih ?_
    cases here with
    | nil => exact hhere
    | cons name above =>
      obtain ⟨e, hat, -⟩ := hhere
      rw [List.reverse_cons] at hat
      obtain ⟨entries, hdirectory, -⟩ := exists_directory_of_at?_concat hat
      exact ⟨_, hdirectory, fun _ => Entry.noConfusion⟩
  | @jump _ _ _ _ _ target _ _ _ ih =>
    refine ih ?_
    cases target.isAbsolute with
    | true => exact ⟨t.top, rfl, fun _ => Entry.noConfusion⟩
    | false => exact hhere
  | down _ hat hchild _ ih => exact ih ⟨_, by rwa [List.reverse_cons], hchild⟩

/-- A path leads to something if it is resolved. -/
theorem exists_at?_of_resolve {place : List String} (h : t.resolve p = .ok place) :
    ∃ e, t.at? place = some e ∧ ∀ target, e ≠ .link target := by
  have hend := (resolve_eq_ok_iff.mp h).2.exists_at? ⟨t.top, rfl, fun _ => Entry.noConfusion⟩
  rwa [List.reverse_reverse] at hend

/-- If pieces lead nowhere for want of files that were taken out, then with these files there is no way
along the pieces that needs more links. -/
theorem Leads.of_notFound (hmore : more.wellNamed = true) {links any : Nat}
    {here pending place : List String}
    (hmissing : (more.without gone).follow links here pending = .error .notFound)
    (h : more.Leads any here pending place) : more.Leads links here pending place := by
  induction h generalizing links with
  | arrived => exact .arrived
  | @stay _ here _ _ _ _ hhere hpiece _ ih =>
    obtain ⟨left, hleft⟩ : ∃ left, (more.without gone).at? here.reverse = some (.directory left) :=
      exists_at?_without_directory hmore hhere
    rw [follow_stay hleft hpiece] at hmissing
    exact .stay hhere hpiece (ih hmissing)
  | @up _ here _ _ _ hhere _ ih =>
    obtain ⟨left, hleft⟩ : ∃ left, (more.without gone).at? here.reverse = some (.directory left) :=
      exists_at?_without_directory hmore hhere
    rw [follow_up hleft] at hmissing
    exact .up hhere (ih hmissing)
  | @jump _ here _ _ piece target hpiece hat _ ih =>
    have hleft : (more.without gone).at? (here.reverse ++ [piece]) = some (.link target) :=
      (at?_without_link_iff hmore).mpr hat
    cases links with
    | zero =>
      rw [follow_link_zero hpiece hleft] at hmissing
      exact absurd (Except.error.inj hmissing) (by decide)
    | succ links =>
      rw [follow_link hpiece hleft] at hmissing
      exact .jump hpiece hat (ih hmissing)
  | @down _ here rest place piece child hpiece hat hchild hrest ih =>
    cases hkept : child.isFile && gone (here.reverse ++ [piece]) with
    | true =>
      -- the file that is missing is where the way ends
      cases child with
      | directory entries => contradiction
      | link target => contradiction
      | file content =>
        obtain ⟨rfl, rfl⟩ := hrest.ends_at_file (by rwa [List.reverse_cons])
        exact .down hpiece hat hchild .arrived
    | false =>
      have hleft : (more.without gone).at? (here.reverse ++ [piece]) =
          some (child.without fun below => gone (here.reverse ++ [piece] ++ below)) :=
        (at?_without_eq_some_iff hmore).mpr ⟨child, hat, hkept, rfl⟩
      rw [follow_down hpiece hleft (Entry.without_ne_link hchild)] at hmissing
      exact .down hpiece hat hchild (ih hmissing)

/-- A path that led nowhere for want of files leads where there is a way to with these files. -/
theorem resolve_of_reaches (hmore : more.wellNamed = true) {place : List String}
    (hmissing : (more.without gone).resolve p = .error .notFound) (htext : p.text ≠ "")
    (h : more.Reaches [] (pieces p) place.reverse) : more.resolve p = .ok place := by
  have hfollow := (resolve_eq_error_iff htext).mp hmissing
  obtain ⟨links, hlinks⟩ := h
  exact resolve_eq_ok_iff.mpr ⟨htext, (leads_of_follow hlinks).of_notFound hmore hfollow⟩

/-- The pieces of a path are those in front of the last one, and the last one. -/
theorem pieces_eq_append_splitLast (p : Path) :
    pieces p = (pieces p).dropLast ++ [(splitLast p).2] := by
  have hne : pieces p ≠ [] := fun h => Path.segments_ne_nil _ (List.map_eq_nil_iff.mp h)
  change _ = _ ++ [(pieces p).getLastD ""]
  rw [List.getLastD_eq_getLast?, List.getLast?_eq_some_getLast hne]
  exact (List.dropLast_concat_getLast hne).symm

/-- No piece of a path has a slash. -/
theorem not_mem_of_mem_pieces {piece : String} (h : piece ∈ pieces p) : '/' ∉ piece.toList := by
  obtain ⟨segment, hsegment, rfl⟩ := List.mem_map.mp h
  rw [String.toList_ofList]
  exact Path.not_mem_of_mem_segments hsegment

/-- The last piece of a path is a good name if it is a name at all. -/
theorem isInner_splitLast (h : IsName (splitLast p).2) :
    (Component.name (splitLast p).2).IsInner := by
  have hmem : (splitLast p).2 ∈ pieces p := by
    rw [pieces_eq_append_splitLast p]
    exact List.mem_append_right _ List.mem_cons_self
  have htext {text : String} (hne : (splitLast p).2 ≠ text) : (splitLast p).2.toList ≠ text.toList :=
    fun heq => hne (String.toList_inj.mp heq)
  have hplain : ¬((splitLast p).2.toList = [] ∨ (splitLast p).2.toList = ['.']) := by
    rintro (hempty | hdot)
    · exact htext (fun heq => h.1 (Or.inl heq)) hempty
    · exact htext (fun heq => h.1 (Or.inr heq)) hdot
  have hdots : ¬(splitLast p).2.toList = ['.', '.'] := htext h.2
  refine ⟨not_mem_of_mem_pieces hmem, ?_⟩
  rw [Component.text, Component.ofSegment?, if_neg hplain, if_neg hdots, String.ofList_toList]

/-- A piece that stays leads nowhere else. -/
theorem Leads.of_cons {links : Nat} {here rest place : List String} {piece : String}
    (h : t.Leads links here (piece :: rest) place) (hpiece : piece = "" ∨ piece = ".") :
    t.Leads links here rest place := by
  cases h with
  | stay _ _ hrest => exact hrest
  | up => exact absurd hpiece (by decide)
  | jump hname _ _ | down hname _ _ _ => exact absurd hpiece hname.1

/-- The directory part of a path leads where the pieces in front of the last one lead. -/
theorem leads_dropLast {parent : List String} (h : t.resolve (splitLast p).1 = .ok parent) :
    t.Leads maxLinks [] (pieces p).dropLast parent.reverse := by
  have hway := (resolve_eq_ok_iff.mp h).2
  simp only [splitLast] at hway
  split at hway
  next hnone =>
    rw [(by decide : pieces ⟨"."⟩ = ["."])] at hway
    rw [hnone]
    exact hway.of_cons (Or.inr rfl)
  next htop =>
    rw [(by decide : pieces ⟨"/"⟩ = [""] ++ [""])] at hway
    rw [htop]
    exact hway.of_append_empty
  next hsome _ =>
    rwa [pieces_intercalate hsome fun n hn => not_mem_of_mem_pieces (List.dropLast_subset _ hn)] at hway

/-- How it comes that a file of a path would be made at a place: the path leads there; or its last piece
is missing in a directory; or its last piece is a link that leads nowhere, and a file of the target would
be made there. -/
inductive MakesAt (t : FileTree) : Path → List String → Prop
  | there {p : Path} {place : List String} (h : t.resolve p = .ok place) : MakesAt t p place
  | fresh {p : Path} {parent : List String} {entries : List (String × Entry)}
      (hmissing : t.resolve p = .error .notFound) (hname : IsName (splitLast p).2)
      (hparent : t.resolve (splitLast p).1 = .ok parent)
      (hentries : t.at? parent = some (.directory entries))
      (hfree : entries.lookup (splitLast p).2 = none) : MakesAt t p (parent ++ [(splitLast p).2])
  | through {p target : Path} {parent place : List String}
      (hmissing : t.resolve p = .error .notFound) (hname : IsName (splitLast p).2)
      (hparent : t.resolve (splitLast p).1 = .ok parent)
      (hlink : t.at? (parent ++ [(splitLast p).2]) = some (.link target))
      (h : MakesAt t ((splitLast p).1.join target) place) : MakesAt t p place

/-- Wherever a file would be made, it comes to that. -/
theorem makesAt_of_placeFor {limit : Nat} {place : List String} (h : t.placeFor limit p = .ok place) :
    t.MakesAt p place := by
  induction limit generalizing p with
  | zero => contradiction
  | succ limit ih =>
    rw [placeFor] at h
    split at h
    next found hresolve => exact Except.ok.inj h ▸ .there hresolve
    next hmissing =>
      rcases hsplit : splitLast p with ⟨directory, name⟩
      obtain ⟨rfl, rfl⟩ : (splitLast p).1 = directory ∧ (splitLast p).2 = name := by simp [hsplit]
      rw [hsplit] at h
      cases hparent : t.resolve (splitLast p).1 with
      | error fault => simp [hparent, bind, Except.bind] at h
      | ok parent =>
        simp only [hparent, bind, Except.bind] at h
        split at h
        next => contradiction
        next hname =>
          have hisName : IsName (splitLast p).2 := by simpa [IsName, and_assoc] using hname
          split at h
          next target hlink => exact .through hmissing hisName hparent hlink (ih h)
          next => contradiction
          next hnone =>
            split at h
            next entries hentries =>
              obtain rfl := Except.ok.inj h
              rw [at?_concat, hentries] at hnone
              exact .fresh hmissing hisName hparent hentries hnone
            next => contradiction
    next => contradiction

/-- The text of a path whose last piece is a name is not empty. -/
theorem text_ne_of_isName (h : IsName (splitLast p).2) : p.text ≠ "" := by
  rintro hempty
  obtain rfl : p = ⟨""⟩ := congrArg Path.mk hempty
  exact absurd h (by decide)

/-- The pieces of a link's target lead on from the directory of the link to wherever the joined path
leads. -/
theorem Reaches.of_join {directory target : Path} {parent place : List String}
    (h : t.Reaches [] (pieces (directory.join target)) place)
    (hparent : t.resolve directory = .ok parent) :
    t.Reaches (if target.isAbsolute then [] else parent.reverse) (pieces target) place := by
  cases habsolute : target.isAbsolute with
  | true =>
    rw [Path.join, habsolute] at h
    exact h
  | false =>
    obtain ⟨htext, hway⟩ := resolve_eq_ok_iff.mp hparent
    obtain ⟨front, hfront, hpieces⟩ := pieces_join htext habsolute
    have hbase : t.Leads maxLinks [] front parent.reverse := by
      rcases hfront with heq | heq
      · exact heq ▸ hway
      · exact (heq ▸ hway).of_append_empty
    rw [hpieces] at h
    exact hbase.reaches_append_iff.mp h

/-- With a file at the place where it would be made, there is a way to it. -/
theorem MakesAt.reaches (hmore : more.wellNamed = true) {place : List String}
    (h : (more.without gone).MakesAt p place) {e : Entry} (hat : more.at? place = some e)
    (he : ∀ target, e ≠ .link target) : more.Reaches [] (pieces p) place.reverse := by
  generalize hless : more.without gone = t at h
  induction h with
  | there hresolve =>
    subst hless
    exact ⟨maxLinks, (resolve_eq_ok_iff.mp (resolve_of_without hmore hresolve)).2.follow_eq⟩
  | @fresh p parent entries hmissing hname hparent hentries hfree =>
    subst hless
    have hway := leads_dropLast (resolve_of_without hmore hparent)
    rw [pieces_eq_append_splitLast p, hway.reaches_append_iff, List.reverse_append]
    exact ⟨0, (Leads.down hname (by rwa [List.reverse_reverse]) he .arrived).follow_eq⟩
  | @through p target parent place hmissing hname hparent hlink _ ih =>
    subst hless
    have hway := leads_dropLast (resolve_of_without hmore hparent)
    have hlinkMore : more.at? (parent.reverse.reverse ++ [(splitLast p).2]) = some (.link target) := by
      rw [List.reverse_reverse]
      exact (at?_without_link_iff hmore).mp hlink
    rw [pieces_eq_append_splitLast p, hway.reaches_append_iff, reaches_link_iff hname hlinkMore,
      List.append_nil]
    exact (ih hat).of_join (resolve_of_without hmore hparent)

/-- With a file at the place where it would be made, the path leads there. -/
theorem MakesAt.resolve_eq_ok (hmore : more.wellNamed = true) {place : List String}
    (h : (more.without gone).MakesAt p place) {e : Entry} (hat : more.at? place = some e)
    (he : ∀ target, e ≠ .link target) : more.resolve p = .ok place := by
  have hreaches := h.reaches hmore hat he
  cases h with
  | there hresolve => exact resolve_of_without hmore hresolve
  | fresh hmissing hname _ _ _ | through hmissing hname _ _ _ =>
    exact resolve_of_reaches hmore hmissing (text_ne_of_isName hname) hreaches

/-- Where a file would be made, either something is or a directory has room for a name. -/
theorem MakesAt.exists_or_free {place : List String} (h : t.MakesAt p place) :
    (∃ e, t.at? place = some e ∧ ∀ target, e ≠ .link target) ∨
      ∃ parent name entries, place = parent ++ [name] ∧ (Component.name name).IsInner ∧
        t.at? parent = some (.directory entries) ∧ entries.lookup name = none := by
  induction h with
  | there hresolve => exact Or.inl (exists_at?_of_resolve hresolve)
  | fresh _ hname _ hentries hfree =>
    exact Or.inr ⟨_, _, _, rfl, isInner_splitLast hname, hentries, hfree⟩
  | through _ _ _ _ _ ih => exact ih

/-- If a path leads nowhere, nothing is at the place where a file of the path would be made. -/
theorem MakesAt.not_exists (ht : t.wellNamed = true) {place : List String} (h : t.MakesAt p place)
    (hnew : t.holds p = false) : ¬∃ e, t.at? place = some e ∧ ∀ target, e ≠ .link target := by
  rintro ⟨e, hat, he⟩
  have hall : t.without (fun _ => false) = t := without_eq_self fun _ => rfl
  have hresolve : t.resolve p = .ok place := (hall.symm ▸ h).resolve_eq_ok ht hat he
  have hfind : t.find p = .ok e := find_eq_ok_iff.mpr ⟨place, hresolve, hat⟩
  rw [holds, hfind] at hnew
  contradiction

/-- A file that is written to a path that led nowhere is what the path leads to from then on, and without
it the tree is what it was. -/
theorem write_of_not_holds (ht : t.wellNamed = true) {bytes : List UInt8}
    (hnew : t.holds p = false) (h : t.write p bytes = .ok more) :
    ∃ place, t.placeFor maxLinks p = .ok place ∧ more.wellNamed = true ∧
      more.read p = .ok bytes ∧ more.without (fun other => decide (other = place)) = t := by
  unfold write at h
  cases hplace : t.placeFor maxLinks p with
  | error fault => simp [hplace, bind, Except.bind] at h
  | ok place =>
    have hmakes := makesAt_of_placeFor hplace
    rcases hmakes.exists_or_free with hthere | ⟨parent, name, entries, rfl, hname, hentries, hfree⟩
    · exact absurd hthere (hmakes.not_exists ht hnew)
    · have hnone : t.at? (parent ++ [name]) = none := by
        rw [at?_concat, hentries]
        exact hfree
      obtain ⟨hgood, hthere, hback⟩ := setAt_file ht hentries hfree hname bytes
      obtain rfl : t.setAt (parent ++ [name]) (some (.file bytes)) = more := by
        simpa [hplace, bind, Except.bind, hnone, pure, Except.pure] using h
      refine ⟨_, rfl, hgood, ?_, hback⟩
      rw [← hback] at hmakes
      exact read_eq_ok_iff.mpr (find_eq_ok_iff.mpr
        ⟨_, hmakes.resolve_eq_ok hgood hthere fun _ => Entry.noConfusion, hthere⟩)

end LayerAudit.FileTree
