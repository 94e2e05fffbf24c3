import LayerAudit.Proofs.FileTree.Removal

/-!
# File trees with a further file

Main statement: a file that is written where nothing was is there afterwards, its path leads to it, and
without it the tree is what it was.
-/

namespace LayerAudit

namespace Entry

/-- Setting a name back to what it was undoes a change. -/
theorem setIn_setIn_lookup (name : String) (e : Entry) (entries : List (String × Entry)) :
    setIn name (entries.lookup name) (setIn name (some e) entries) = entries := by
  induction entries with
  | nil => simp [setIn]
  | cons first rest ih =>
    obtain ⟨other, kept⟩ := first
    by_cases hname : other = name
    · simp [setIn, hname]
    · have hlookup : List.lookup name ((other, kept) :: rest) = rest.lookup name := by
        rw [List.lookup_cons, beq_eq_false_iff_ne.mpr (Ne.symm hname)]
      rw [hlookup, setIn, if_neg hname, setIn, if_neg hname, ih]

/-- What is set for a name is looked up by it. -/
theorem lookup_setIn_some (name : String) (e : Entry) (entries : List (String × Entry)) :
    (setIn name (some e) entries).lookup name = some e := by
  induction entries with
  | nil => simp [setIn]
  | cons first rest ih =>
    obtain ⟨other, kept⟩ := first
    by_cases hname : other = name
    · simp [setIn, hname]
    · rw [setIn, if_neg hname, List.lookup_cons, beq_eq_false_iff_ne.mpr (Ne.symm hname)]
      exact ih

/-- Only what is set is new. -/
theorem mem_of_mem_setIn_some {name : String} {e : Entry} {entries : List (String × Entry)}
    {f : String × Entry} (h : f ∈ setIn name (some e) entries) : f = (name, e) ∨ f ∈ entries := by
  induction entries with
  | nil => exact Or.inl (List.mem_singleton.mp h)
  | cons first rest ih =>
    obtain ⟨other, kept⟩ := first
    by_cases hname : other = name
    · rw [setIn, if_pos hname] at h
      rcases List.mem_append.mp h with hnew | hrest
      · exact Or.inl (List.mem_singleton.mp hnew)
      · exact Or.inr (List.mem_cons_of_mem _ hrest)
    · rw [setIn, if_neg hname] at h
      rcases List.mem_cons.mp h with rfl | hrest
      · exact Or.inr List.mem_cons_self
      · exact (ih hrest).imp_right (List.mem_cons_of_mem _)

/-- Names differ after a name is set if they did before. -/
theorem nodup_setIn_some {name : String} {e : Entry} {entries : List (String × Entry)}
    (h : (entries.map Prod.fst).Nodup) : ((setIn name (some e) entries).map Prod.fst).Nodup := by
  induction entries with
  | nil => exact List.nodup_cons.mpr ⟨List.not_mem_nil, List.nodup_nil⟩
  | cons first rest ih =>
    obtain ⟨other, kept⟩ := first
    obtain ⟨hother, hrest⟩ := List.nodup_cons.mp h
    by_cases hname : other = name
    · rw [setIn, if_pos hname]
      exact hname ▸ h
    · rw [setIn, if_neg hname]
      refine List.nodup_cons.mpr ⟨fun hmem => ?_, ih hrest⟩
      obtain ⟨f, hf, hfirst⟩ := List.mem_map.mp hmem
      rcases mem_of_mem_setIn_some hf with rfl | hold
      · exact hname hfirst.symm
      · exact hother (List.mem_map.mpr ⟨f, hold, hfirst⟩)

/-- A directory with good names keeps them if a good name is set to what has good names itself. -/
theorem wellNamed_setIn {name : String} {e : Entry} {entries : List (String × Entry)}
    (h : (directory entries).wellNamed = true) (hname : (Component.name name).IsInner)
    (he : e.wellNamed = true) : (directory (setIn name (some e) entries)).wellNamed = true := by
  obtain ⟨hnodup, hentries⟩ := wellNamed_directory_iff.mp h
  refine wellNamed_directory_iff.mpr ⟨nodup_setIn_some hnodup, fun f hf => ?_⟩
  rcases mem_of_mem_setIn_some hf with rfl | hold
  · exact ⟨hname, he⟩
  · exact hentries f hold

/-- To set what lies further down is to change what lies at the first name. -/
theorem setAt_cons {entry : Option Entry} {name : String} {rest : List String}
    {entries : List (String × Entry)} {child : Entry} (hrest : rest ≠ [])
    (hchild : entries.lookup name = some child) :
    (directory entries).setAt entry (name :: rest) =
      directory (setIn name (some (child.setAt entry rest)) entries) := by
  cases rest with
  | nil => contradiction
  | cons next others => simp [setAt, hchild]

/-- What is added to a directory is found there, and to remove it undoes this. -/
theorem setAt_concat {e new : Entry} (he : e.wellNamed = true) {names : List String} {name : String}
    {entries : List (String × Entry)} (hparent : e.below? names = some (directory entries))
    (hfree : entries.lookup name = none) (hname : (Component.name name).IsInner)
    (hnew : new.wellNamed = true) :
    (e.setAt (some new) (names ++ [name])).wellNamed = true ∧
      (e.setAt (some new) (names ++ [name])).below? (names ++ [name]) = some new ∧
      (e.setAt (some new) (names ++ [name])).setAt none (names ++ [name]) = e := by
  induction names generalizing e with
  | nil =>
    obtain rfl : e = directory entries := Option.some.inj hparent
    refine ⟨wellNamed_setIn he hname hnew, ?_, ?_⟩
    · exact lookup_setIn_some name new entries
    · exact congrArg directory (hfree ▸ setIn_setIn_lookup name new entries)
  | cons next rest ih =>
    rw [below?_cons] at hparent
    obtain ⟨child, hchild, hbelow⟩ := Option.bind_eq_some_iff.mp hparent
    obtain ⟨hgood, hthere, hundone⟩ := ih (wellNamed_child? he hchild) hbelow
    cases e with
    | file content => contradiction
    | link target => contradiction
    | directory siblings =>
      have hlookup : siblings.lookup next = some child := hchild
      have hmem : (next, child) ∈ siblings :=
        (lookup_eq_some_iff_mem (wellNamed_directory_iff.mp he).1).mp hlookup
      have hnext : (Component.name next).IsInner := ((wellNamed_directory_iff.mp he).2 _ hmem).1
      have hne : rest ++ [name] ≠ [] := List.append_ne_nil_of_right_ne_nil _ (List.cons_ne_nil _ _)
      rw [List.cons_append, setAt_cons hne hlookup]
      refine ⟨wellNamed_setIn he hnext hgood, ?_, ?_⟩
      · rw [below?_cons, child?, lookup_setIn_some]
        exact hthere
      · rw [setAt_cons hne (lookup_setIn_some _ _ _), hundone, ← hlookup, setIn_setIn_lookup]

end Entry

namespace FileTree

variable {t : FileTree}

/-- To set what lies below the top is to set it below the top directory. -/
theorem top_setAt {place : List String} (hplace : place ≠ []) (entry : Option Entry) :
    (t.setAt place entry).top = t.top.setAt entry place := by
  have hdirectory : ∃ entries, t.top.setAt entry place = .directory entries := by
    cases place with
    | nil => contradiction
    | cons name rest =>
      cases rest with
      | nil => exact ⟨_, rfl⟩
      | cons next others => cases hlookup : t.entries.lookup name <;> simp [top, Entry.setAt, hlookup]
  obtain ⟨entries, hentries⟩ := hdirectory
  rw [setAt, hentries]
  rfl

/-- A file that is set where nothing was is there afterwards, and without it the tree is what it
was. -/
theorem setAt_file (ht : t.wellNamed = true) {place : List String} {name : String}
    {entries : List (String × Entry)} (hparent : t.at? place = some (.directory entries))
    (hfree : entries.lookup name = none) (hname : (Component.name name).IsInner)
    (content : Content) :
    let more := t.setAt (place ++ [name]) (some (.file content))
    more.wellNamed = true ∧ more.at? (place ++ [name]) = some (.file content) ∧
      more.without (fun other => decide (other = place ++ [name])) = t := by
  intro more
  have hne : place ++ [name] ≠ [] := List.append_ne_nil_of_right_ne_nil _ (List.cons_ne_nil _ _)
  have htop : more.top = t.top.setAt (some (.file content)) (place ++ [name]) := top_setAt hne _
  have hfile : (Entry.file content).wellNamed = true := by
    rw [Entry.wellNamed]
    exact fun _ => Entry.noConfusion
  obtain ⟨hgood, hthere, hundone⟩ := Entry.setAt_concat ht hparent hfree hname hfile
  rw [← htop] at hgood hthere hundone
  refine ⟨hgood, hthere, ?_⟩
  have hremoved : (more.setAt (place ++ [name]) none).top = t.top := by
    rw [top_setAt hne, hundone]
  rw [← setAt_none_eq_without hgood hthere]
  exact congrArg FileTree.mk (Entry.directory.inj hremoved)

end FileTree

end LayerAudit
