import LayerAudit.Proofs.Collector.Walk
import LayerAudit.Proofs.FileTree.Ways

/-!
# What is collected

A file system tells by names what lies below a directory. The main statement compares this with what
is collected there: exactly the regular files whose names are asked for, below no directory with a
skipped name. Only names below the start count, so neither the start's own name nor that of the file
can leave the file out, and what lies behind a link is not below the start.

The walk is exact by induction on the tree. That the collected paths are read as these files takes
that a way goes on by names.
-/

namespace LayerAudit

namespace Entry

/-- Only a directory has something below it. -/
theorem isDirectory_of_below? {e found : Entry} {name : String} {rest : List String}
    (h : e.below? (name :: rest) = some found) : e.isDirectory = true := by
  rw [below?_cons] at h
  obtain ⟨child, hchild, -⟩ := Option.bind_eq_some_iff.mp h
  cases e with
  | directory entries => rfl
  | file content => contradiction
  | link target => contradiction

end Entry

namespace Collector

variable {c : Collector}

/-- What lies under an entry has its name first, and is come to unless the entry is a directory that
is skipped. -/
theorem mem_placesUnder_iff {name : String} {e : Entry} {place : List String} :
    place ∈ c.placesUnder (name, e) ↔ ¬(e.isDirectory = true ∧ c.skips name = true) ∧
      ∃ rest ∈ c.placesAt e, place = name :: rest := by
  rw [placesUnder]
  split
  next h =>
    rw [Bool.and_eq_true] at h
    exact iff_of_false List.not_mem_nil fun hright => hright.1 h
  next h =>
    rw [Bool.and_eq_true] at h
    rw [List.mem_map, and_iff_right h]
    simp only [eq_comm]

/-- The way down to a file passes a directory's name unless nothing lies between. -/
theorem forall_mem_dropLast_cons {e : Entry} {name : String} {rest : List String}
    {content : Content} (h : e.below? rest = some (.file content)) :
    (∀ d ∈ (name :: rest).dropLast, c.skips d = false) ↔
      ¬(e.isDirectory = true ∧ c.skips name = true) ∧ ∀ d ∈ rest.dropLast, c.skips d = false := by
  cases rest with
  | nil =>
    obtain rfl := Option.some.inj h
    simp [Entry.isDirectory]
  | cons next others =>
    rw [List.dropLast_cons_of_ne_nil (List.cons_ne_nil next others), List.forall_mem_cons,
      Entry.isDirectory_of_below? h]
    simp

/-- The walk comes to a place exactly if a file lies there and no directory on the way is skipped. -/
theorem mem_placesAt_iff {e : Entry} (he : e.wellNamed = true) {place : List String} :
    place ∈ c.placesAt e ↔ (∃ content, e.below? place = some (.file content)) ∧
      ∀ d ∈ place.dropLast, c.skips d = false := by
  induction e generalizing place with
  | file content =>
    cases place with
    | nil => simp [placesAt, Entry.below?_nil]
    | cons name rest => simp [placesAt, Entry.below?_cons, Entry.child?]
  | link target =>
    cases place with
    | nil => simp [placesAt, Entry.below?_nil]
    | cons name rest => simp [placesAt, Entry.below?_cons, Entry.child?]
  | directory entries ih =>
    obtain ⟨hnodup, hentries⟩ := Entry.wellNamed_directory_iff.mp he
    rw [placesAt_directory, List.mem_flatMap]
    cases place with
    | nil =>
      refine iff_of_false ?_ ?_
      · rintro ⟨e, -, hunder⟩
        obtain ⟨-, rest, -, heq⟩ := mem_placesUnder_iff.mp hunder
        contradiction
      · rintro ⟨⟨content, hfile⟩, -⟩
        exact absurd (Option.some.inj hfile) (by simp)
    | cons name rest =>
      constructor
      · rintro ⟨⟨other, e⟩, hmem, hunder⟩
        have hentry := mem_byName.mp hmem
        obtain ⟨hentered, rest, hrest, heq⟩ := mem_placesUnder_iff.mp hunder
        obtain ⟨rfl, rfl⟩ := List.cons.inj heq
        obtain ⟨⟨content, hfile⟩, hskips⟩ := (ih _ hentry (hentries _ hentry).2).mp hrest
        refine ⟨⟨content, ?_⟩, (forall_mem_dropLast_cons hfile).mpr ⟨hentered, hskips⟩⟩
        rw [Entry.below?_cons, Entry.child?, (lookup_eq_some_iff_mem hnodup).mpr hentry]
        exact hfile
      · rintro ⟨⟨content, hfile⟩, hskips⟩
        rw [Entry.below?_cons, Entry.child?] at hfile
        obtain ⟨e, hlookup, hbelow⟩ := Option.bind_eq_some_iff.mp hfile
        have hentry := (lookup_eq_some_iff_mem hnodup).mp hlookup
        obtain ⟨hentered, hrest⟩ := (forall_mem_dropLast_cons hbelow).mp hskips
        refine ⟨(name, e), mem_byName.mpr hentry, mem_placesUnder_iff.mpr ⟨hentered, rest, ?_, rfl⟩⟩
        exact (ih _ hentry (hentries _ hentry).2).mpr ⟨⟨content, hbelow⟩, hrest⟩

/-- A file is asked for if its name has one of the endings and is not that of a declaration file. -/
theorem accepts_iff {name : String} :
    c.accepts name = true ↔ (∃ e ∈ c.extensions, e.toList <:+ name.toList) ∧
      ¬declarationSuffix.toList <:+ name.toList := by
  simp only [accepts, endsWith, Bool.and_eq_true, Bool.not_eq_true', List.any_eq_true,
    ← Bool.not_eq_true, List.isSuffixOf_iff_suffix, and_comm]

/-- A path that goes down to a name is that of a file that is asked for if the name is. -/
theorem isSource_descend {root : Path} (hroot : root.text ≠ "") {directories : List String}
    {name : String} (hnames : ∀ n ∈ directories ++ [name], (Component.name n).IsInner) :
    c.isSource (root.descend (directories ++ [name])) = c.accepts name := by
  rw [isSource, Path.fileName?_descend hroot hnames]
  rfl

/-- What is collected below a directory: the files that lie below it, are asked for, and have no
skipped directory on the way down to them, whether they can be read or not. -/
theorem mem_collect_iff {tree : FileTree} (htree : tree.wellNamed = true) {root : Path}
    {base : List String} {entries : List (String × Entry)} (hroot : tree.resolve root = .ok base)
    (hbase : tree.at? base = some (.directory entries)) {p : Path} :
    p ∈ c.collect tree root ↔ ∃ directories name content,
      p = root.descend (directories ++ [name]) ∧
      tree.at? (base ++ (directories ++ [name])) = some (.file content) ∧
      c.accepts name = true ∧ ∀ d ∈ directories, c.skips d = false := by
  have hfind : tree.find root = .ok (.directory entries) :=
    FileTree.find_eq_ok_iff.mpr ⟨base, hroot, hbase⟩
  have hnamed := FileTree.wellNamed_find htree hfind
  have htext : root.text ≠ "" := (FileTree.resolve_eq_ok_iff.mp hroot).1
  have hplaces : c.places tree root = c.placesAt (.directory entries) := by
    rw [places, hfind]
    rfl
  have hbelow (place : List String) :
      tree.at? (base ++ place) = (Entry.directory entries).below? place := by
    rw [FileTree.at?_append, hbase, Option.bind_some]
  rw [collect_eq_filter_walk c htree, List.mem_filter, walk_eq_map_places, List.mem_map, hplaces]
  constructor
  · rintro ⟨⟨place, hplace, rfl⟩, hsource⟩
    obtain ⟨⟨content, hfile⟩, hskips⟩ := (mem_placesAt_iff hnamed).mp hplace
    have hinner := isInner_of_mem_placesAt hnamed hplace
    obtain ⟨directories, name, rfl⟩ :=
      (List.eq_nil_or_concat place).resolve_left (ne_nil_of_mem_placesAt rfl hplace)
    rw [List.concat_eq_append] at *
    rw [isSource_descend htext hinner] at hsource
    rw [List.dropLast_concat] at hskips
    rw [← hbelow] at hfile
    exact ⟨directories, name, content, rfl, hfile, hsource, hskips⟩
  · rintro ⟨directories, name, content, rfl, hat, haccepts, hskips⟩
    rw [hbelow] at hat
    have hplace : directories ++ [name] ∈ c.placesAt (.directory entries) :=
      (mem_placesAt_iff hnamed).mpr ⟨⟨content, hat⟩, by rwa [List.dropLast_concat]⟩
    refine ⟨⟨_, hplace, rfl⟩, ?_⟩
    rw [isSource_descend htext (isInner_of_mem_placesAt hnamed hplace), haccepts]

/-- How a collected file is shown to those who know the start leads back to it from there. -/
theorem join_relativeTo_of_mem_collect {tree : FileTree} (htree : tree.wellNamed = true) {root : Path}
    {base : List String} {entries : List (String × Entry)} (hroot : tree.resolve root = .ok base)
    (hbase : tree.at? base = some (.directory entries)) {p : Path} (hp : p ∈ c.collect tree root) :
    root.join ⟨p.relativeTo root⟩ = p := by
  obtain ⟨directories, name, content, rfl, hat, -⟩ := (mem_collect_iff htree hroot hbase).mp hp
  have hinner : ∀ n ∈ directories ++ [name], (Component.name n).IsInner := fun n hn =>
    FileTree.isInner_of_at? htree hat n (List.mem_append_right _ hn)
  rw [Path.relativeTo_descend (FileTree.resolve_eq_ok_iff.mp hroot).1 hinner]
  exact (Path.descend_eq_join (by simp) hinner).symm

/-- From a directory, or a link to one, exactly those files below it are collected whose names end in
one of the extensions, are not those of declaration files, and that have no directory with a skipped
name between them and the start. They come in the order of their paths, each of them once, and at its
path each of them is read as what it holds, if it can be read. -/
theorem collect_exact (extensions extra : List String) {tree : FileTree}
    (htree : tree.wellNamed = true) {root : Path} {base : List String}
    {entries : List (String × Entry)} (hroot : tree.resolve root = .ok base)
    (hbase : tree.at? base = some (.directory entries)) :
    let found := ((ofExtensions extensions).skipping extra).collect tree root
    found.Pairwise Path.Before ∧
      ∀ p, p ∈ found ↔ ∃ directories name content,
        p = root.descend (directories ++ [name]) ∧
        tree.at? (base ++ (directories ++ [name])) = some (.file content) ∧
        tree.read p = content.mapError .unreadable ∧
        ((∃ e ∈ extensions, e.toList <:+ name.toList) ∧ ¬".d.ts".toList <:+ name.toList) ∧
        ∀ d ∈ directories, d ∉ alwaysSkipped ∧ d ∉ extra := by
  intro found
  have hskips (d : String) : ((ofExtensions extensions).skipping extra).skips d = false ↔
      d ∉ alwaysSkipped ∧ d ∉ extra := by
    rw [← Bool.not_eq_true, skips, List.contains_iff_mem]
    simp [skipping, ofExtensions]
  refine ⟨pairwise_collect _ htree root, fun p => ?_⟩
  simp only [found, mem_collect_iff htree hroot hbase, accepts_iff, hskips]
  refine exists_congr fun directories => exists_congr fun name => exists_congr fun content => ?_
  refine and_congr_right fun hp => and_congr_right fun hat => ?_
  have hinner : ∀ n ∈ directories ++ [name], (Component.name n).IsInner := fun n hn =>
    FileTree.isInner_of_at? htree hat n (List.mem_append_right _ hn)
  rw [hp, FileTree.read_descend hroot hinner hat, and_iff_right rfl]
  rfl

/-- From a link to a directory that links back to itself, a file is collected whose own name is one of
the skipped ones. -/
theorem collect_exact_loop :
    let entries : List (String × Entry) :=
      [("a.ts", .file (.ok [])), ("dist", .directory [("b.ts", .file (.ok []))]),
        ("loop", .link ⟨"/here"⟩)]
    let tree : FileTree := ⟨[("here", .link ⟨"src"⟩), ("src", .directory entries)]⟩
    let found := ((ofExtensions [".ts"]).skipping ["a.ts"]).collect tree ⟨"/here"⟩
    (tree.wellNamed = true ∧ tree.resolve ⟨"/here"⟩ = .ok ["src"] ∧
      tree.at? ["src"] = some (.directory entries)) ∧
      found.Pairwise Path.Before ∧ ⟨"/here/a.ts"⟩ ∈ found := by
  intro entries tree found
  have htree : tree.wellNamed = true := by decide
  have hway : tree.Leads FileTree.maxLinks [] ["", "here"] ["src"] := by
    refine .stay rfl (Or.inl rfl) (.jump (by decide) rfl ?_)
    exact .down (by decide) rfl (fun _ => Entry.noConfusion) .arrived
  have hpieces : FileTree.pieces ⟨"/here"⟩ = ["", "here"] := by decide
  have hroot : tree.resolve ⟨"/here"⟩ = .ok ["src"] :=
    FileTree.resolve_eq_ok_iff.mpr ⟨by decide, hpieces ▸ hway⟩
  obtain ⟨hordered, hmem⟩ := collect_exact [".ts"] ["a.ts"] htree hroot rfl
  refine ⟨⟨htree, hroot, rfl⟩, hordered, (hmem _).mpr ⟨[], "a.ts", .ok [], ?_⟩⟩
  have hpath : (⟨"/here/a.ts"⟩ : Path) = Path.descend ⟨"/here"⟩ ["a.ts"] := by decide
  have hinner : ∀ n ∈ ["a.ts"], (Component.name n).IsInner := by decide
  have hread : tree.read ⟨"/here/a.ts"⟩ = .ok [] := by
    rw [hpath]
    exact FileTree.read_descend hroot hinner rfl
  refine ⟨hpath, rfl, hread, ⟨⟨".ts", List.mem_cons_self, by decide⟩, by decide⟩, ?_⟩
  exact fun d hd => absurd hd List.not_mem_nil

end Collector

end LayerAudit
