import LayerAudit.Proofs.Analysis.Provenance
import LayerAudit.Proofs.Facts.Faults
import LayerAudit.Proofs.Report.Lines
import LayerAudit.Proofs.Rule.Messages

/-!
# The lines of a run's report

A violation is written with the name of its file, and its message with names out of the sources. Main
statement: the report of a run has a line for each violation that it shows exactly if no file and no
message among them has a line break, which is so if the names of the collected files and the names that are
read in them have none.

Neither is seen to by the run. A file may be called what its directory allows, and the name of a module may
go over a line break behind a backslash.
-/

namespace LayerAudit

open Text

namespace Path

/-- What is left of a file name is made up of characters of it. -/
theorem toList_stem_subset (fileName : String) : (stem fileName).toList ⊆ fileName.toList := by
  intro c hc
  simp only [stem] at hc
  split at hc
  · exact hc
  · rw [String.toList_ofList, List.mem_reverse] at hc
    have hbehind := List.dropWhile_subset _ (List.mem_of_mem_drop hc)
    exact List.mem_reverse.mp hbehind

end Path

/-- A collected file that is shown on one line has a name on one line. -/
theorem Collector.isOneLine_baseName {c : Collector} {tree : FileTree} (htree : tree.wellNamed = true)
    {root : Path} {base : List String} {entries : List (String × Entry)}
    (hroot : tree.resolve root = .ok base) (hbase : tree.at? base = some (.directory entries)) {p : Path}
    (hp : p ∈ c.collect tree root) (h : IsOneLine (p.relativeTo root)) : IsOneLine p.baseName := by
  obtain ⟨directories, name, bytes, rfl, hat, -⟩ := (mem_collect_iff htree hroot hbase).mp hp
  have hinner : ∀ n ∈ directories ++ [name], (Component.name n).IsInner := fun n hn =>
    FileTree.isInner_of_at? htree hat n (List.mem_append_right _ hn)
  have htext : root.text ≠ "" := (FileTree.resolve_eq_ok_iff.mp hroot).1
  rw [Path.relativeTo_descend htext hinner] at h
  rw [Path.baseName, Path.fileName?_descend htext hinner]
  exact fun hbreak => isOneLine_of_intercalate_concat h (Path.toList_stem_subset name hbreak)

/-- Why a file has no facts is said on one line. -/
theorem SourceFile.isOneLine_message_of_load {tree : FileTree} {path : Path} {fault : LoadFault}
    (h : load Facts.ofTypeScript tree path = .error fault) : IsOneLine fault.message := by
  refine LoadFault.isOneLine_message fun malformed heq => ?_
  subst heq
  cases load_eq_error_iff.mp h with
  | malformed _ _ hfacts => exact Facts.isOneLine_message_of_ofTypeScript hfacts

namespace Analysis

variable {a : Analysis} {tree : FileTree}

/-- A violation of a run has the file and the message of a finding. -/
theorem exists_finding_of_mem_violations {extract : Extractor} (htree : tree.wellNamed = true)
    {v : Violation} (h : v ∈ (a.result extract tree).report.violations) :
    ∃ f ∈ a.findings extract tree, v.file = f.file.relativeTo a.root ∧ v.message = f.message := by
  rw [violations_report_result htree, Store.mem_violationsFor_iff] at h
  obtain ⟨f, hf, rfl⟩ := h
  exact ⟨f, hf, rfl, rfl⟩

/-- What a run finds is said on one line if the files that it parses have names on one line. -/
theorem isOneLine_message_of_mem_findings (htree : tree.wellNamed = true)
    (hfiles : ∀ file ∈ (a.result Facts.ofTypeScript tree).parsed.cache.files, file.NamesOneLine)
    {f : Finding} (h : f ∈ a.findings Facts.ofTypeScript tree) : IsOneLine f.message := by
  rcases List.mem_append.mp h with hfailure | hrule
  · obtain ⟨p, -, hp⟩ := List.mem_flatMap.mp hfailure
    unfold failureFindings at hp
    split at hp
    · exact absurd hp List.not_mem_nil
    next fault hload =>
      rw [List.mem_singleton.mp hp]
      exact isOneLine_append.mpr ⟨by decide, SourceFile.isOneLine_message_of_load hload⟩
  · obtain ⟨rule, -, hf⟩ := List.mem_flatMap.mp hrule
    refine Rule.isOneLine_of_mem_findings (fun file hfile => hfiles file ?_) hf
    rwa [(parsed_result a Facts.ofTypeScript htree).1]

/-- Without colours, the text of a run's report has one line for each violation that it shows, behind a
header that tells their number, exactly if none of them has a file or a message with a line break. This is
so if the collected files are shown on one line each and the names of the imports and the declarations
that are read in them fit on one. -/
theorem entriesTakeOneLine_run_iff (a : Analysis) {tree : FileTree} (htree : tree.wellNamed = true)
    {r : Result} (hrun : a.run Facts.ofTypeScript tree = .ok r) (hcolor : a.options.color = false) :
    (r.report.EntriesTakeOneLine a.textOptions ↔
      ∀ v ∈ r.report.shown a.textOptions, IsOneLine v.file ∧ IsOneLine v.message) ∧
    ((∀ p ∈ r.files, IsOneLine (p.relativeTo a.root)) →
      (∀ file ∈ r.parsed.cache.files, ∀ s ∈ file.facts.subjects, IsOneLine s.name) →
      r.report.EntriesTakeOneLine a.textOptions) := by
  have hlines : r.report.EntriesTakeOneLine a.textOptions ↔
      ∀ v ∈ r.report.shown a.textOptions, IsOneLine v.file ∧ IsOneLine v.message := by
    rw [Report.entriesTakeOneLine_iff hcolor]
    simp only [Report.isOneLine_display]
  refine ⟨hlines, fun hpaths hnames => hlines.mpr fun v hv => ?_⟩
  obtain ⟨hstarts, rfl⟩ := run_eq_ok_iff.mp hrun
  obtain ⟨base, entries, hroot, hbase⟩ := fault?_eq_none_iff.mp hstarts
  have hfiles : ∀ file ∈ (a.result Facts.ofTypeScript tree).parsed.cache.files, file.NamesOneLine := by
    intro file hfile
    refine ⟨?_, hnames file hfile⟩
    rw [(parsed_result a Facts.ofTypeScript htree).1] at hfile
    obtain ⟨p, hp, hload⟩ := Session.mem_loadedFiles.mp hfile
    rw [SourceFile.baseName, SourceFile.path_of_load hload]
    exact Collector.isOneLine_baseName htree hroot hbase hp (hpaths p hp)
  obtain ⟨f, hf, hfile, hmessage⟩ :=
    exists_finding_of_mem_violations htree (Report.mem_violations_of_mem_shown hv)
  rw [hfile, hmessage]
  exact ⟨hpaths _ (file_mem_of_mem_findings hf), isOneLine_message_of_mem_findings htree hfiles hf⟩

section OneFile

/-- A file system with one file in a source directory, which is no text. -/
def binaryTree (name : String) : FileTree := ⟨[("src", .directory [(name, .file (.ok [0xff]))])]⟩

/-- A run from the source directory. -/
def plainRun : Analysis := ⟨⟨"/src"⟩, ⟨false, .console, false, false⟩, .default⟩

variable {name : String}

/-- The root of the run lies at the source directory. -/
theorem resolve_plainRoot (name : String) : (binaryTree name).resolve plainRun.root = .ok ["src"] :=
  FileTree.resolve_of_at? ["src"] (by decide) (by decide) rfl (by simp) (by decide)

/-- The run comes to a result, whatever the name of the file. -/
theorem run_plainRun (name : String) : plainRun.run Facts.ofTypeScript (binaryTree name) =
    .ok (plainRun.result Facts.ofTypeScript (binaryTree name)) :=
  run_eq_ok_iff.mpr ⟨fault?_eq_none_iff.mpr ⟨["src"], _, resolve_plainRoot name, rfl⟩, rfl⟩

/-- The file lies in the source directory. -/
theorem at?_binaryTree (name : String) :
    (binaryTree name).at? (["src"] ++ [name]) = some (.file (.ok [0xff])) := by
  change [(name, Entry.file (.ok [0xff]))].lookup name = _
  rw [List.lookup_cons_self]

/-- A name that ends like that of a source file and can stand between two slashes. -/
structure IsSourceName (name : String) : Prop where
  inner : (Component.name name).IsInner
  accepted : plainRun.collector.accepts name = true

namespace IsSourceName

variable (hname : IsSourceName name)

include hname

/-- The tree is well named if the file has the name of a source file. -/
theorem wellNamed_binaryTree : (binaryTree name).wellNamed = true := by
  have hdirectory : (Entry.directory [(name, .file (.ok [0xff]))]).wellNamed = true := by
    refine Entry.wellNamed_directory_iff.mpr ⟨List.nodup_singleton name, fun e he => ?_⟩
    rw [List.mem_singleton.mp he]
    exact ⟨hname.inner, rfl⟩
  have hsource : (Component.name "src").IsInner := by decide
  refine Entry.wellNamed_directory_iff.mpr ⟨List.nodup_singleton "src", fun e he => ?_⟩
  rw [List.mem_singleton.mp he]
  exact ⟨hsource, hdirectory⟩

/-- The one file is collected. -/
theorem collect_binaryTree :
    plainRun.collector.collect (binaryTree name) plainRun.root = [plainRun.root.descend [name]] := by
  have hfind : (binaryTree name).find plainRun.root = _ :=
    FileTree.find_eq_ok_iff.mpr ⟨["src"], resolve_plainRoot name, rfl⟩
  have hplaces : plainRun.collector.places (binaryTree name) plainRun.root = [[name]] := by
    rw [Collector.places, hfind]
    simp only [Collector.placesAt_directory]
    rw [byName_singleton]
    simp only [List.flatMap_cons, Collector.placesUnder, Collector.placesAt]
    rfl
  have hsource : plainRun.collector.isSource (plainRun.root.descend [name]) = true := by
    rw [← List.nil_append [name], Collector.isSource_descend (by decide) (by simpa using hname.inner)]
    exact hname.accepted
  rw [Collector.collect_eq_filter_walk _ hname.wellNamed_binaryTree, Collector.walk_eq_map_places,
    hplaces, List.map_singleton, List.filter_singleton, hsource]
  rfl

/-- The file is not text. -/
theorem load_binaryTree :
    SourceFile.load Facts.ofTypeScript (binaryTree name) (plainRun.root.descend [name]) =
      .error (.notText ⟨0, some 1⟩) := by
  have hread : (binaryTree name).read (plainRun.root.descend [name]) = .ok [0xff] :=
    FileTree.read_descend (resolve_plainRoot name) (by simpa using hname.inner) (at?_binaryTree name)
  exact SourceFile.load_eq_error_iff.mpr (.notText hread (by decide))

/-- The file is shown by its name. -/
theorem relativeTo_binaryTree : (plainRun.root.descend [name]).relativeTo plainRun.root = name := by
  rw [Path.relativeTo_descend (by decide) (by simpa using hname.inner), String.intercalate_singleton]

/-- The failure to parse the file is in the report, with the name of the file as it is. -/
theorem errors_binaryTree :
    (plainRun.result Facts.ofTypeScript (binaryTree name)).report.errors =
      [⟨.error, name, none, .parseError,
        "Failed to parse file: " ++ LoadFault.message (.notText ⟨0, some 1⟩)⟩] := by
  have hbucket : (plainRun.result Facts.ofTypeScript (binaryTree name)).report.bucket .error = _ :=
    bucket_report_result hname.wellNamed_binaryTree .error
  rw [hname.collect_binaryTree, found_of_load_eq_error hname.load_binaryTree] at hbucket
  change _ = [Violation.mk .error ((plainRun.root.descend [name]).relativeTo plainRun.root) none
    .parseError _] at hbucket
  rw [hname.relativeTo_binaryTree] at hbucket
  exact hbucket

end IsSourceName

/-- A file that is called over two lines takes two lines of the report, of which the second looks like a
violation. Called otherwise it takes one. -/
theorem entriesTakeOneLine_run_iff_binary :
    let run := fun name => plainRun.result Facts.ofTypeScript (binaryTree name)
    (∀ name ∈ ["a\n  b.ts", "b.ts"], (binaryTree name).wellNamed = true ∧
      plainRun.run Facts.ofTypeScript (binaryTree name) = .ok (run name)) ∧
      plainRun.options.color = false ∧
      ¬(run "a\n  b.ts").report.EntriesTakeOneLine plainRun.textOptions ∧
      (run "b.ts").report.EntriesTakeOneLine plainRun.textOptions := by
  intro run
  have hbroken : IsSourceName "a\n  b.ts" := ⟨by decide, by decide⟩
  have hwhole : IsSourceName "b.ts" := ⟨by decide, by decide⟩
  refine ⟨by simpa using ⟨⟨hbroken.wellNamed_binaryTree, run_plainRun _⟩, hwhole.wellNamed_binaryTree,
    run_plainRun _⟩, rfl, fun hlines => ?_, ?_⟩
  · have hshown := (entriesTakeOneLine_run_iff plainRun hbroken.wellNamed_binaryTree (run_plainRun _)
      rfl).1.mp hlines
    obtain ⟨v, hv, hfile⟩ : ∃ v ∈ (run "a\n  b.ts").report.errors, v.file = "a\n  b.ts" :=
      ⟨_, by rw [hbroken.errors_binaryTree]; exact List.mem_cons_self, rfl⟩
    have hone := (hshown v (List.mem_append_left _ (List.mem_append_left _ hv))).1
    rw [hfile] at hone
    exact absurd hone (by decide)
  · refine (entriesTakeOneLine_run_iff plainRun hwhole.wellNamed_binaryTree (run_plainRun _) rfl).2
      (fun p hp => ?_) (fun file hfile => ?_)
    · have hfiles : (run "b.ts").files = [plainRun.root.descend ["b.ts"]] := hwhole.collect_binaryTree
      rw [hfiles, List.mem_singleton] at hp
      rw [hp, hwhole.relativeTo_binaryTree]
      decide
    · rw [(parsed_result plainRun _ hwhole.wellNamed_binaryTree).1, hwhole.collect_binaryTree] at hfile
      obtain ⟨p, hp, hload⟩ := Session.mem_loadedFiles.mp hfile
      rw [List.mem_singleton.mp hp, hwhole.load_binaryTree] at hload
      cases hload

end OneFile

end Analysis

end LayerAudit
