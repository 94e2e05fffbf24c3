import LayerAudit.Cache
import LayerAudit.Proofs.Except
import LayerAudit.Proofs.Path.Order
import LayerAudit.Proofs.Store.Recording

/-!
# What a cache holds after attempts to parse files

One attempt does one of three things: nothing if the path was attempted before, or else it puts the
file's facts into the cache, or else it remembers the failure and records it. All that holds after a
run of attempts follows from this: the files stand in the order of their paths and have the facts
that were read, each path that was attempted is remembered as parsed or as failed, and the store has
the failures in the order in which they came.

A run over paths in their order adds to the files and to the failures in that order and does nothing
else.
-/

namespace LayerAudit

/-- For what reason a file has no facts: its bytes cannot be had, or they are no text, or the text is not
well formed. -/
inductive LoadFault.Arises (extract : Extractor) (tree : FileTree) (path : Path) : LoadFault → Prop
  | unreadable {fault : PathFault} (hread : tree.read path = .error fault) :
      Arises extract tree path (.unreadable fault)
  | notText {bytes : List UInt8} {fault : Text.Utf8Fault} (hread : tree.read path = .ok bytes)
      (hcontent : Text.decodeUtf8 bytes = .error fault) : Arises extract tree path (.notText fault)
  | malformed {bytes : List UInt8} {content : String} {fault : SyntaxFault}
      (hread : tree.read path = .ok bytes) (hcontent : Text.decodeUtf8 bytes = .ok content)
      (hfacts : extract content = .error fault) : Arises extract tree path (.malformed fault)

namespace SourceFile

variable {extract : Extractor} {tree : FileTree} {path : Path}

/-- A file is parsed exactly if it can be read, its bytes are a text, and the text has facts. -/
theorem load_eq_ok_iff {file : SourceFile} : load extract tree path = .ok file ↔
    ∃ bytes content facts, tree.read path = .ok bytes ∧ Text.decodeUtf8 bytes = .ok content ∧
      extract content = .ok facts ∧ file = ⟨path, content, facts⟩ := by
  simp only [load, ofBytes, bind_eq_ok_iff, mapError_eq_ok_iff]
  constructor
  · rintro ⟨bytes, hread, content, hcontent, facts, hfacts, hfile⟩
    exact ⟨bytes, content, facts, hread, hcontent, hfacts, (Except.ok.inj hfile).symm⟩
  · rintro ⟨bytes, content, facts, hread, hcontent, hfacts, rfl⟩
    exact ⟨bytes, hread, content, hcontent, facts, hfacts, rfl⟩

/-- A file that is parsed keeps the path that it is read from. -/
theorem path_of_load {file : SourceFile} (h : load extract tree path = .ok file) : file.path = path := by
  obtain ⟨bytes, content, facts, -, -, -, rfl⟩ := load_eq_ok_iff.mp h
  rfl

/-- A file is not parsed exactly for one of the reasons for which it has no facts. -/
theorem load_eq_error_iff {fault : LoadFault} :
    load extract tree path = .error fault ↔ fault.Arises extract tree path := by
  have hdone (content : String) (facts : Facts) :
      (pure ⟨path, content, facts⟩ : Except LoadFault SourceFile) ≠ .error fault := nofun
  simp only [load, ofBytes, bind_eq_error_iff, mapError_eq_ok_iff, mapError_eq_error_iff, hdone,
    and_false, exists_false, or_false]
  constructor
  · rintro (⟨unread, hread, rfl⟩ |
      ⟨bytes, hread, ⟨broken, hcontent, rfl⟩ | ⟨content, hcontent, malformed, hfacts, rfl⟩⟩)
    · exact .unreadable hread
    · exact .notText hread hcontent
    · exact .malformed hread hcontent hfacts
  · rintro (hread | ⟨hread, hcontent⟩ | ⟨hread, hcontent, hfacts⟩)
    · exact Or.inl ⟨_, hread, rfl⟩
    · exact Or.inr ⟨_, hread, Or.inl ⟨_, hcontent, rfl⟩⟩
    · exact Or.inr ⟨_, hread, Or.inr ⟨_, hcontent, _, hfacts, rfl⟩⟩

end SourceFile

namespace Cache

/-- Whether an attempt of a path is remembered, as parsed or as failed. -/
def Remembers (c : Cache) (path : Path) : Prop :=
  (∃ q ∈ c.failed, q.components = path.components) ∨
    ∃ f ∈ c.files, f.path.components = path.components

/-- An attempt is remembered exactly if its path is among the failed ones or has a file. -/
theorem remembers_iff {c : Cache} {path : Path} :
    (c.hasFailed path || (c.get? path).isSome) = true ↔ c.Remembers path := by
  simp only [hasFailed, get?, Remembers, Bool.or_eq_true, List.any_eq_true, List.find?_isSome,
    Path.same_iff]

/-- The files of a cache stand in the order of their paths. -/
def Ordered (c : Cache) : Prop := c.files.Pairwise fun f g => f.path.Before g.path

/-- Whether all that a cache knows of comes before a path. -/
def Precedes (c : Cache) (path : Path) : Prop :=
  (∀ f ∈ c.files, f.path.Before path) ∧ ∀ q ∈ c.failed, q.Before path

/-- An empty cache knows of nothing that would have to come before a path. -/
theorem precedes_empty (path : Path) : empty.Precedes path :=
  ⟨fun _ hf => absurd hf List.not_mem_nil, fun _ hq => absurd hq List.not_mem_nil⟩

/-- A path that comes after all others was not attempted. -/
theorem Precedes.not_remembers {c : Cache} {path : Path} (h : c.Precedes path) :
    ¬c.Remembers path := by
  rintro (⟨q, hq, hsame⟩ | ⟨f, hf, hsame⟩)
  · exact (h.2 q hq).components_ne hsame
  · exact (h.1 f hf).components_ne hsame

/-- Among files, one that is put in its place joins the others. -/
theorem mem_insert {f g : SourceFile} {files : List SourceFile} :
    g ∈ insert f files ↔ g = f ∨ g ∈ files := by
  induction files with
  | nil => simp [insert]
  | cons other rest ih =>
    rw [insert]
    split
    · rw [List.mem_cons]
    · rw [List.mem_cons, ih, List.mem_cons]
      exact or_left_comm

/-- A file with a new path is put where its path belongs. -/
theorem pairwise_insert {f : SourceFile} {files : List SourceFile}
    (hfiles : files.Pairwise fun g h => g.path.Before h.path)
    (hnew : ∀ g ∈ files, g.path.components ≠ f.path.components) :
    (insert f files).Pairwise fun g h => g.path.Before h.path := by
  induction files with
  | nil => exact List.pairwise_singleton _ _
  | cons other rest ih =>
    obtain ⟨hother, hrest⟩ := List.pairwise_cons.mp hfiles
    rw [insert]
    split
    next hlt =>
      have hbefore : f.path.Before other.path := Ordering.isLT_iff_eq_lt.mp hlt
      refine List.pairwise_cons.mpr ⟨fun g hg => ?_, hfiles⟩
      rcases List.mem_cons.mp hg with rfl | hg
      · exact hbefore
      · exact hbefore.trans (hother g hg)
    next hlt =>
      have hbefore : other.path.Before f.path := by
        rcases Path.before_or_before (hnew other List.mem_cons_self) with h | h
        · exact h
        · exact absurd (Ordering.isLT_iff_eq_lt.mpr h) hlt
      refine List.pairwise_cons.mpr ⟨fun g hg => ?_, ih hrest fun g hg =>
        hnew g (List.mem_cons_of_mem _ hg)⟩
      rcases mem_insert.mp hg with rfl | hg
      · exact hbefore
      · exact hother g hg

/-- A file whose path comes last is put at the end. -/
theorem insert_eq_append {f : SourceFile} {files : List SourceFile}
    (h : ∀ g ∈ files, g.path.Before f.path) : insert f files = files ++ [f] := by
  induction files with
  | nil => rfl
  | cons other rest ih =>
    have hnot : ¬(f.path.compare other.path).isLT = true := fun hlt =>
      (h other List.mem_cons_self).asymm (Ordering.isLT_iff_eq_lt.mp hlt)
    rw [insert, if_neg hnot, ih fun g hg => h g (List.mem_cons_of_mem _ hg)]
    rfl

end Cache

/-- The findings that an attempt with a given outcome records. -/
def failureFindings (load : Path → Except LoadFault SourceFile) (path : Path) : List Finding :=
  match load path with
  | .ok _ => []
  | .error fault => (Attempt.failed fault).findings path

/-- A failure to parse is about the file that could not be parsed. -/
theorem mem_failureFindings {load : Path → Except LoadFault SourceFile} {path : Path} {f : Finding}
    (h : f ∈ failureFindings load path) : f.file = path ∧ f.code = .parseError := by
  unfold failureFindings at h
  split at h
  · exact absurd h List.not_mem_nil
  · rw [List.mem_singleton.mp h]
    exact ⟨rfl, rfl⟩

/-- A failure to parse has no line. -/
theorem line_of_mem_failureFindings {load : Path → Except LoadFault SourceFile} {path : Path}
    {f : Finding} (h : f ∈ failureFindings load path) : f.line = none := by
  unfold failureFindings at h
  split at h
  · exact absurd h List.not_mem_nil
  · rw [List.mem_singleton.mp h]

namespace Session

variable {load : Path → Except LoadFault SourceFile}

/-- What one attempt does. -/
theorem parse_cases (load : Path → Except LoadFault SourceFile) (s : Session) (path : Path) :
    s.cache.Remembers path ∧ s.parse load path = s ∨
      ¬s.cache.Remembers path ∧
        ((∃ file, load path = .ok file ∧ s.parse load path =
          ⟨{ s.cache with files := Cache.insert file s.cache.files }, s.store⟩) ∨
        (∃ fault, load path = .error fault ∧ s.parse load path =
          ⟨{ s.cache with failed := s.cache.failed ++ [path] },
            s.store.recordAll (failureFindings load path)⟩)) := by
  by_cases hremembers : s.cache.Remembers path
  · refine Or.inl ⟨hremembers, ?_⟩
    rw [parse, Cache.attempt, if_pos (Cache.remembers_iff.mpr hremembers)]
    rfl
  · refine Or.inr ⟨hremembers, ?_⟩
    have hnew := mt Cache.remembers_iff.mp hremembers
    cases hload : load path with
    | ok file =>
      refine Or.inl ⟨file, rfl, ?_⟩
      rw [parse, Cache.attempt, if_neg hnew, hload]
      rfl
    | error fault =>
      refine Or.inr ⟨fault, rfl, ?_⟩
      rw [parse, Cache.attempt, if_neg hnew, failureFindings, hload]

/-- An attempt keeps the files in order. -/
theorem ordered_parse (hload : ∀ {path file}, load path = .ok file → file.path = path)
    {s : Session} (hs : s.cache.Ordered) (path : Path) : (s.parse load path).cache.Ordered := by
  rcases parse_cases load s path with
    ⟨-, hsame⟩ | ⟨hnew, ⟨file, hfile, hparsed⟩ | ⟨fault, -, hfailed⟩⟩
  · rwa [hsame]
  · rw [hparsed]
    refine Cache.pairwise_insert hs fun g hg heq => hnew (Or.inr ⟨g, hg, ?_⟩)
    rw [heq, hload hfile]
  · rw [hfailed]
    exact hs

/-- An attempt is remembered, and so are those before it. -/
theorem remembers_parse (hload : ∀ {path file}, load path = .ok file → file.path = path)
    (s : Session) (path : Path) {q : Path} (h : s.cache.Remembers q ∨ q = path) :
    (s.parse load path).cache.Remembers q := by
  rcases parse_cases load s path with
    ⟨hold, hsame⟩ | ⟨-, ⟨file, hfile, hparsed⟩ | ⟨fault, -, hfailed⟩⟩
  · rw [hsame]
    rcases h with h | rfl
    · exact h
    · exact hold
  · rw [hparsed]
    rcases h with (h | ⟨g, hg, heq⟩) | rfl
    · exact Or.inl h
    · exact Or.inr ⟨g, Cache.mem_insert.mpr (Or.inr hg), heq⟩
    · exact Or.inr ⟨file, Cache.mem_insert.mpr (Or.inl rfl), by rw [hload hfile]⟩
  · rw [hfailed]
    rcases h with (⟨r, hr, heq⟩ | h) | rfl
    · exact Or.inl ⟨r, List.mem_append_left _ hr, heq⟩
    · exact Or.inr h
    · exact Or.inl ⟨q, List.mem_append_right _ List.mem_cons_self, rfl⟩

/-- Attempts of paths, each in the file system as it is at that moment. -/
def parseEach (extract : Extractor) (s : Session) (attempts : List (FileTree × Path)) : Session :=
  attempts.foldl (fun s a => s.parse (SourceFile.load extract a.1) a.2) s

/-- A session starts with its files in order, as it has none. -/
theorem ordered_start (store : Store) : (start store).cache.Ordered := List.Pairwise.nil

/-- Attempts keep the files in order, whatever becomes of the file system between them. -/
theorem ordered_parseEach {extract : Extractor} {s : Session} (hs : s.cache.Ordered)
    (attempts : List (FileTree × Path)) : (s.parseEach extract attempts).cache.Ordered := by
  induction attempts generalizing s with
  | nil => exact hs
  | cons a attempts ih => exact ih (ordered_parse SourceFile.path_of_load hs a.2)

/-- A run of attempts is remembered. -/
theorem remembers_parseAll (hload : ∀ {path file}, load path = .ok file → file.path = path)
    (s : Session) (paths : List Path) {q : Path} (h : s.cache.Remembers q ∨ q ∈ paths) :
    (s.parseAll load paths).cache.Remembers q := by
  induction paths generalizing s with
  | nil => exact h.resolve_right List.not_mem_nil
  | cons path paths ih =>
    refine ih (s.parse load path) ?_
    rcases h with h | h
    · exact Or.inl (remembers_parse hload s path (Or.inl h))
    · rcases List.mem_cons.mp h with rfl | h
      · exact Or.inl (remembers_parse hload s q (Or.inr rfl))
      · exact Or.inr h

/-- What a session tells of the files that it attempted is what was read of them. -/
structure Faithful (load : Path → Except LoadFault SourceFile) (before : Store) (s : Session) :
    Prop where
  loaded : ∀ f ∈ s.cache.files, load f.path = .ok f
  failed : ∀ q ∈ s.cache.failed, ∃ fault, load q = .error fault
  recorded : s.store = before.recordAll (s.cache.failed.flatMap (failureFindings load))

/-- A session starts with nothing to tell. -/
theorem faithful_start (load : Path → Except LoadFault SourceFile) (store : Store) :
    (start store).Faithful load store :=
  ⟨fun _ hf => absurd hf List.not_mem_nil, fun _ hq => absurd hq List.not_mem_nil, rfl⟩

/-- One attempt keeps a session faithful. -/
theorem Faithful.parse (hload : ∀ {path file}, load path = .ok file → file.path = path)
    {before : Store} {s : Session} (hs : s.Faithful load before) (path : Path) :
    (s.parse load path).Faithful load before := by
  rcases parse_cases load s path with
    ⟨-, hsame⟩ | ⟨-, ⟨file, hfile, hparsed⟩ | ⟨fault, hfault, hfailed⟩⟩
  · rwa [hsame]
  · rw [hparsed]
    refine ⟨fun f hf => ?_, hs.failed, hs.recorded⟩
    rcases Cache.mem_insert.mp hf with rfl | hf
    · rw [hload hfile, hfile]
    · exact hs.loaded f hf
  · rw [hfailed]
    refine ⟨hs.loaded, fun q hq => ?_, ?_⟩
    · rcases List.mem_append.mp hq with hq | hq
      · exact hs.failed q hq
      · exact ⟨fault, by rw [List.mem_singleton.mp hq, hfault]⟩
    · change s.store.recordAll _ = _
      rw [hs.recorded, List.flatMap_append, List.flatMap_singleton, Store.recordAll_append]

/-- A run of attempts keeps a session faithful. -/
theorem Faithful.parseAll (hload : ∀ {path file}, load path = .ok file → file.path = path)
    {before : Store} {s : Session} (hs : s.Faithful load before) (paths : List Path) :
    (s.parseAll load paths).Faithful load before := by
  induction paths generalizing s with
  | nil => exact hs
  | cons path paths ih => exact ih (hs.parse hload path)

/-- The files that a run over given paths finds well formed. -/
def loadedFiles (load : Path → Except LoadFault SourceFile) (paths : List Path) : List SourceFile :=
  paths.filterMap fun path => (load path).toOption

/-- The files loaded from paths are those that one of the paths loads as. -/
theorem mem_loadedFiles {paths : List Path} {file : SourceFile} :
    file ∈ loadedFiles load paths ↔ ∃ path ∈ paths, load path = .ok file := by
  rw [loadedFiles, List.mem_filterMap]
  simp only [toOption_eq_some_iff]

/-- Files that are left out are not parsed. -/
theorem loadedFiles_filter (hload : ∀ {path file}, load path = .ok file → file.path = path)
    (paths : List Path) (keep : Path → Bool) :
    loadedFiles load (paths.filter keep) =
      (loadedFiles load paths).filter fun file => keep file.path := by
  unfold loadedFiles
  induction paths with
  | nil => rfl
  | cons path paths ih =>
    cases hfile : load path with
    | error fault =>
      have hnone : (load path).toOption = none := by rw [hfile]; rfl
      rw [List.filterMap_cons_none (f := fun p => (load p).toOption) hnone, ← ih, List.filter_cons]
      split
      · exact List.filterMap_cons_none hnone
      · rfl
    | ok file =>
      have hsome : (load path).toOption = some file := by rw [hfile]; rfl
      rw [List.filterMap_cons_some (f := fun p => (load p).toOption) hsome, List.filter_cons,
        List.filter_cons, hload hfile, ← ih]
      split
      · exact List.filterMap_cons_some hsome
      · rfl

/-- Files are parsed in the order of the paths that are given. -/
theorem pairwise_loadedFiles (hload : ∀ {path file}, load path = .ok file → file.path = path)
    {paths : List Path} (h : paths.Pairwise Path.Before) :
    (loadedFiles load paths).Pairwise fun f g => f.path.Before g.path := by
  rw [loadedFiles, List.pairwise_filterMap]
  refine h.imp fun hbefore f hf g hg => ?_
  rwa [hload (toOption_eq_some_iff.mp hf), hload (toOption_eq_some_iff.mp hg)]

/-- An attempt of a path that comes after all others adds what it reads at the end, and leaves a
cache that all later paths come after. -/
theorem parse_of_precedes (hload : ∀ {path file}, load path = .ok file → file.path = path)
    {s : Session} {path : Path} (h : s.cache.Precedes path) :
    (s.parse load path).cache.files = s.cache.files ++ loadedFiles load [path] ∧
      (s.parse load path).store = s.store.recordAll (failureFindings load path) ∧
      ∀ next, path.Before next → (s.parse load path).cache.Precedes next := by
  have hfiles (next : Path) (hnext : path.Before next) : ∀ f ∈ s.cache.files, f.path.Before next :=
    fun f hf => (h.1 f hf).trans hnext
  have hfailures (next : Path) (hnext : path.Before next) : ∀ q ∈ s.cache.failed, q.Before next :=
    fun q hq => (h.2 q hq).trans hnext
  rcases parse_cases load s path with
    ⟨hold, -⟩ | ⟨-, ⟨file, hfile, hparsed⟩ | ⟨fault, hfault, hparsed⟩⟩
  · exact absurd hold h.not_remembers
  · have hinsert : Cache.insert file s.cache.files = s.cache.files ++ [file] :=
      Cache.insert_eq_append fun g hg => by
        rw [hload hfile]
        exact h.1 g hg
    rw [hparsed]
    refine ⟨?_, ?_, fun next hnext => ⟨fun f hf => ?_, hfailures next hnext⟩⟩
    · simp [loadedFiles, hfile, hinsert, Except.toOption]
    · simp [failureFindings, hfile, Store.recordAll]
    · rcases Cache.mem_insert.mp hf with rfl | hf
      · rw [hload hfile]
        exact hnext
      · exact hfiles next hnext f hf
  · rw [hparsed]
    refine ⟨?_, rfl, fun next hnext => ⟨hfiles next hnext, fun q hq => ?_⟩⟩
    · simp [loadedFiles, hfault, Except.toOption]
    · rcases List.mem_append.mp hq with hq | hq
      · exact hfailures next hnext q hq
      · rw [List.mem_singleton.mp hq]
        exact hnext

/-- A run over paths in their order, all of which come after what was attempted before, adds what it
reads at the end. -/
theorem parseAll_of_ascending (hload : ∀ {path file}, load path = .ok file → file.path = path)
    {s : Session} {paths : List Path} (hpaths : paths.Pairwise Path.Before)
    (h : ∀ path ∈ paths, s.cache.Precedes path) :
    (s.parseAll load paths).cache.files = s.cache.files ++ loadedFiles load paths ∧
      (s.parseAll load paths).store = s.store.recordAll (paths.flatMap (failureFindings load)) := by
  induction paths generalizing s with
  | nil => exact ⟨(List.append_nil _).symm, rfl⟩
  | cons path paths ih =>
    obtain ⟨hpath, hrest⟩ := List.pairwise_cons.mp hpaths
    obtain ⟨hfiles, hstore, hnext⟩ := parse_of_precedes hload (h path List.mem_cons_self)
    obtain ⟨hrestFiles, hrestStore⟩ := ih hrest fun next hmem => hnext next (hpath next hmem)
    have hloaded : loadedFiles load (path :: paths) =
        loadedFiles load [path] ++ loadedFiles load paths := List.filterMap_append (l := [path])
    constructor
    · rw [hloaded, ← List.append_assoc, ← hfiles]
      exact hrestFiles
    · rw [List.flatMap_cons, Store.recordAll_append, ← hstore]
      exact hrestStore

end Session

end LayerAudit
