import LayerAudit.Proofs.Analysis.Report
import LayerAudit.Proofs.Collector.Coverage
import LayerAudit.Proofs.Layer.Climbing
import LayerAudit.Proofs.Rule.Relocation

/-!
# Projects that move

Main statement: a run reports the same of a project wherever the project lies, as long as its imports lead
no further above the source root than the last names of the root that stay the same.

Two runs over the same directory at two roots are followed side by side. They collect files at the same
places below their roots. A file is read there with the same outcome, is shown by the names below the root,
and is not told apart by any rule. What is above the root could only matter to an import that leads there,
and such an import only meets the names that the roots share.
-/

namespace LayerAudit

/-- Whether the relative imports of the source files below a directory never lead more than `k` levels
above that directory. -/
def Entry.ImportsClimbAtMost (extract : Extractor) (k : ℕ) (e : Entry) : Prop :=
  ∀ directories name (bytes : List UInt8) text facts,
    e.below? (directories ++ [name]) = some (.file bytes) →
    (Collector.ofExtensions Analysis.extensions).accepts name = true →
    Text.decodeUtf8 bytes = .ok text → extract text = .ok facts →
    ∀ i ∈ facts.imports, isRelativeSpecifier i.specifier = true →
      ClimbsAtMost k directories.length i.specifier

/-- What becomes of a file with some content at a path. -/
def SourceFile.ofContent (extract : Extractor) (path : Path) (content : Content) :
    Except LoadFault SourceFile := do
  ofBytes extract path (← content.mapError fun fault => LoadFault.unreadable (.unreadable fault))

/-- Whether content gives a file, and which text and facts it has, does not depend on where it lies. -/
theorem SourceFile.ofContent_cases (extract : Extractor) (content : Content) :
    (∃ fault, ∀ path, ofContent extract path content = .error fault) ∨
      ∃ bytes text facts, (content = .ok bytes ∧ Text.decodeUtf8 bytes = .ok text ∧
        extract text = .ok facts) ∧ ∀ path, ofContent extract path content = .ok ⟨path, text, facts⟩ := by
  cases content with
  | error fault => exact Or.inl ⟨.unreadable (.unreadable fault), fun path => rfl⟩
  | ok bytes =>
    have hbytes (path : Path) : ofContent extract path (.ok bytes) = ofBytes extract path bytes := rfl
    cases htext : Text.decodeUtf8 bytes with
    | error fault =>
      refine Or.inl ⟨.notText fault, fun path => ?_⟩
      rw [hbytes, ofBytes, htext]
      rfl
    | ok text =>
      have hread (path : Path) : ofContent extract path (.ok bytes) =
          ((extract text).mapError LoadFault.malformed).map fun facts => ⟨path, text, facts⟩ := by
        rw [hbytes, ofBytes, htext]
        rfl
      cases hfacts : extract text with
      | error fault => exact Or.inl ⟨.malformed fault, fun path => by rw [hread, hfacts]; rfl⟩
      | ok facts =>
        refine Or.inr ⟨bytes, text, facts, ⟨rfl, htext, hfacts⟩, fun path => ?_⟩
        rw [hread, hfacts]
        rfl

namespace Collector

/-- The places of the files that are collected below a directory. -/
def sourcePlaces (c : Collector) (e : Entry) : List (List String) :=
  (c.placesAt e).filter fun place => place.getLast?.any c.accepts

variable {c : Collector} {tree : FileTree} {root : Path} {entries : List (String × Entry)}

/-- A file is collected at a place that ends in a name that is asked for. -/
theorem exists_of_mem_sourcePlaces (hnamed : (Entry.directory entries).wellNamed = true)
    {place : List String} (h : place ∈ c.sourcePlaces (.directory entries)) :
    ∃ directories name content, place = directories ++ [name] ∧ c.accepts name = true ∧
      (Entry.directory entries).below? place = some (.file content) ∧
      ∀ n ∈ place, (Component.name n).IsInner := by
  obtain ⟨hplace, haccepts⟩ := List.mem_filter.mp h
  obtain ⟨⟨content, hfile⟩, -⟩ := (mem_placesAt_iff hnamed).mp hplace
  obtain ⟨directories, name, rfl⟩ :=
    (List.eq_nil_or_concat place).resolve_left (ne_nil_of_mem_placesAt rfl hplace)
  rw [List.concat_eq_append, List.getLast?_concat] at haccepts
  exact ⟨directories, name, content, List.concat_eq_append .., haccepts, hfile,
    isInner_of_mem_placesAt hnamed hplace⟩

/-- Which places are collected depends on the directory alone. -/
theorem collect_eq_map_sourcePlaces (c : Collector) (htree : tree.wellNamed = true)
    (hfind : tree.find root = .ok (.directory entries)) :
    c.collect tree root = (c.sourcePlaces (.directory entries)).map root.descend := by
  have hnamed := FileTree.wellNamed_find htree hfind
  obtain ⟨base, hroot, -⟩ := FileTree.find_eq_ok_iff.mp hfind
  have htext : root.text ≠ "" := (FileTree.resolve_eq_ok_iff.mp hroot).1
  have hplaces : c.places tree root = c.placesAt (.directory entries) := by
    rw [places, hfind]
    rfl
  rw [collect_eq_filter_walk c htree, walk_eq_map_places, hplaces, List.filter_map, sourcePlaces]
  refine congrArg _ (List.filter_congr fun place hplace => ?_)
  obtain ⟨directories, name, rfl⟩ :=
    (List.eq_nil_or_concat place).resolve_left (ne_nil_of_mem_placesAt rfl hplace)
  have hinner := isInner_of_mem_placesAt hnamed hplace
  rw [List.concat_eq_append] at *
  rw [Function.comp_apply, isSource_descend htext hinner, List.getLast?_concat]
  rfl

end Collector

/-- Files that are read at paths in pairs come in pairs. -/
theorem Session.forall₂_loadedFiles {α : Type} {R : SourceFile → SourceFile → Prop}
    {load other : Path → Except LoadFault SourceFile} {places : List α} {p q : α → Path}
    (h : ∀ place ∈ places, Option.Rel R (load (p place)).toOption (other (q place)).toOption) :
    List.Forall₂ R (loadedFiles load (places.map p)) (loadedFiles other (places.map q)) := by
  induction places with
  | nil => exact .nil
  | cons place places ih =>
    have hrest := ih fun next hnext => h next (List.mem_cons_of_mem _ hnext)
    have hfirst := h place List.mem_cons_self
    unfold loadedFiles at *
    rw [List.map_cons, List.map_cons, List.filterMap_cons, List.filterMap_cons]
    cases hload : (load (p place)).toOption <;> cases hother : (other (q place)).toOption <;>
      rw [hload, hother] at hfirst
    · exact hrest
    · cases hfirst
    · cases hfirst
    · cases hfirst with
      | some hpair => exact .cons hpair hrest

namespace Analysis

/-- Whether a directory with given entries lies at the root of a run, and the root is written by names
alone. -/
structure LiesAt (a : Analysis) (tree : FileTree) (names : List String)
    (entries : List (String × Entry)) : Prop where
  wellNamed : tree.wellNamed = true
  components : a.root.components = .root :: names.map .name
  find : tree.find a.root = .ok (.directory entries)

variable {extract : Extractor} {a b : Analysis} {tree otherTree : FileTree}
  {names otherNames : List String} {entries : List (String × Entry)}

namespace LiesAt

/-- A root below the top is written with some text. -/
theorem text_ne (h : a.LiesAt tree names entries) : a.root.text ≠ "" :=
  Path.text_ne_empty_of_names h.components

/-- The directory at the root is well named. -/
theorem entries_wellNamed (h : a.LiesAt tree names entries) :
    (Entry.directory entries).wellNamed = true := FileTree.wellNamed_find h.wellNamed h.find

/-- A run from a directory starts. -/
theorem fault?_eq_none (h : a.LiesAt tree names entries) : a.fault? tree = none := by
  obtain ⟨base, hroot, hbase⟩ := FileTree.find_eq_ok_iff.mp h.find
  exact fault?_eq_none_iff.mpr ⟨base, entries, hroot, hbase⟩

/-- A file at a place below the root is what its content gives. -/
theorem load_descend (h : a.LiesAt tree names entries) {place : List String} {content : Content}
    (hnames : ∀ n ∈ place, (Component.name n).IsInner)
    (hfile : (Entry.directory entries).below? place = some (.file content)) :
    SourceFile.load extract tree (a.root.descend place) =
      SourceFile.ofContent extract (a.root.descend place) content := by
  obtain ⟨base, hroot, hbase⟩ := FileTree.find_eq_ok_iff.mp h.find
  have hat : tree.at? (base ++ place) = some (.file content) := by
    rw [FileTree.at?_append, hbase, Option.bind_some, hfile]
  rw [SourceFile.load, FileTree.read_descend hroot hnames hat]
  cases content <;> rfl

/-- A place is shown alike below both roots. -/
theorem relativeTo_descend (h : a.LiesAt tree names entries) (hb : b.LiesAt otherTree otherNames entries)
    {place : List String} (hnames : ∀ n ∈ place, (Component.name n).IsInner) :
    (b.root.descend place).relativeTo b.root = (a.root.descend place).relativeTo a.root := by
  rw [Path.relativeTo_descend hb.text_ne hnames, Path.relativeTo_descend h.text_ne hnames]

/-- Failures at the same places are recorded alike. -/
theorem map_entry_failures (h : a.LiesAt tree names entries) (hb : b.LiesAt otherTree otherNames entries)
    (c : Collector) :
    (((c.sourcePlaces (.directory entries)).map b.root.descend).flatMap
        (failureFindings (SourceFile.load extract otherTree))).map (Store.empty b.root).entry =
      (((c.sourcePlaces (.directory entries)).map a.root.descend).flatMap
        (failureFindings (SourceFile.load extract tree))).map (Store.empty a.root).entry := by
  rw [List.flatMap_map, List.flatMap_map, List.map_flatMap, List.map_flatMap]
  refine List.flatMap_congr fun place hplace => ?_
  obtain ⟨directories, name, content, rfl, -, hfile, hnames⟩ :=
    Collector.exists_of_mem_sourcePlaces h.entries_wellNamed hplace
  rw [failureFindings, failureFindings, h.load_descend hnames hfile, hb.load_descend hnames hfile]
  rcases SourceFile.ofContent_cases extract content with ⟨fault, hfault⟩ | ⟨bytes, text, facts, -, hloaded⟩
  · rw [hfault, hfault]
    simp [Attempt.findings, Store.entry, Store.violation, Store.empty, h.relativeTo_descend hb hnames]
  · rw [hloaded, hloaded]
    rfl

variable {above otherAbove shared : List String}

/-- A file at the same place below two roots is not told apart by any rule, if its imports lead no
further up than the names that the roots share. -/
theorem seenAlike_descend (h : a.LiesAt tree (above ++ shared) entries)
    (hb : b.LiesAt otherTree (otherAbove ++ shared) entries) {directories : List String}
    {name text : String} {facts : Facts}
    (hnames : ∀ n ∈ directories ++ [name], (Component.name n).IsInner)
    (hclimb : ∀ i ∈ facts.imports, isRelativeSpecifier i.specifier = true →
      ClimbsAtMost shared.length directories.length i.specifier) :
    Rule.SeenAlike a.classifier b.classifier ⟨a.root.descend (directories ++ [name]), text, facts⟩
      ⟨b.root.descend (directories ++ [name]), text, facts⟩ where
  content := rfl
  facts := rfl
  baseName := by
    simp only [SourceFile.baseName, Path.baseName, Path.fileName?_descend h.text_ne hnames,
      Path.fileName?_descend hb.text_ne hnames]
  layer := (layerOfFile_descend hb.text_ne hnames).trans (layerOfFile_descend h.text_ne hnames).symm
  imports i hi := layerOfImport_descend_eq hb.components h.components hnames (hclimb i hi)
  repositories := (inSubdirectory_descend hb.text_ne hnames _ _).trans
    (inSubdirectory_descend h.text_ne hnames _ _).symm

/-- The files that are parsed below two roots come in pairs that are seen and shown alike. -/
theorem forall₂_loadedFiles (h : a.LiesAt tree (above ++ shared) entries)
    (hb : b.LiesAt otherTree (otherAbove ++ shared) entries)
    (hclimb : (Entry.directory entries).ImportsClimbAtMost extract shared.length) :
    List.Forall₂ (fun file other => Rule.SeenAlike a.classifier b.classifier file other ∧
        other.path.relativeTo b.root = file.path.relativeTo a.root)
      (Session.loadedFiles (SourceFile.load extract tree)
        ((a.collector.sourcePlaces (.directory entries)).map a.root.descend))
      (Session.loadedFiles (SourceFile.load extract otherTree)
        ((a.collector.sourcePlaces (.directory entries)).map b.root.descend)) := by
  refine Session.forall₂_loadedFiles fun place hplace => ?_
  obtain ⟨directories, name, content, rfl, haccepts, hfile, hnames⟩ :=
    Collector.exists_of_mem_sourcePlaces h.entries_wellNamed hplace
  rw [h.load_descend hnames hfile, hb.load_descend hnames hfile]
  rcases SourceFile.ofContent_cases extract content with
    ⟨fault, hfault⟩ | ⟨bytes, text, facts, ⟨rfl, htext, hfacts⟩, hloaded⟩
  · rw [hfault, hfault]
    exact .none
  · rw [hloaded, hloaded]
    refine .some ⟨h.seenAlike_descend hb hnames ?_, h.relativeTo_descend hb hnames⟩
    exact hclimb directories name bytes text facts hfile haccepts htext hfacts

/-- All that is found below two roots is recorded alike. -/
theorem map_entry_findings (h : a.LiesAt tree (above ++ shared) entries)
    (hb : b.LiesAt otherTree (otherAbove ++ shared) entries) (hconfig : b.config = a.config)
    (hclimb : (Entry.directory entries).ImportsClimbAtMost extract shared.length) :
    (b.findings extract otherTree).map (Store.empty b.root).entry =
      (a.findings extract tree).map (Store.empty a.root).entry := by
  have hcollector : b.collector = a.collector := by rw [collector, collector, hconfig]
  have hrules : b.rules = a.rules := by
    unfold rules enables
    rw [hconfig]
  have hrecorded (r : Rule) := Rule.map_entry_findings (s := .empty a.root) (t := .empty b.root)
    (h.forall₂_loadedFiles hb hclimb) r
  rw [findings, findings, a.collector.collect_eq_map_sourcePlaces h.wellNamed h.find, hcollector,
    a.collector.collect_eq_map_sourcePlaces hb.wellNamed hb.find, found, found, List.map_append,
    List.map_append, h.map_entry_failures hb, ruleFindings, ruleFindings, hrules]
  simp only [List.map_flatMap, hrecorded]

end LiesAt

/-- A bucket has those violations of its severity that the findings are recorded as. -/
theorem bucket_report_result_eq_filter (htree : tree.wellNamed = true) (severity : Severity) :
    (a.result extract tree).report.bucket severity =
      ((a.findings extract tree).map (Store.empty a.root).entry).filter fun v =>
        decide (v.severity = severity) := by
  rw [bucket_report_result htree, List.filter_map]
  refine List.map_congr_left fun f hf => ?_
  obtain rfl : f.code.severity = severity := of_decide_eq_true (List.mem_filter.mp hf).2
  rfl

/-- Of a project that lies at two roots, runs with the same settings report the same, if its imports
lead no further above the root than the names that the roots end in alike. -/
theorem reports_alike_wherever_placed (extract : Extractor) (hconfig : b.config = a.config)
    {above otherAbove shared : List String} (ha : a.LiesAt tree (above ++ shared) entries)
    (hb : b.LiesAt otherTree (otherAbove ++ shared) entries)
    (hclimb : (Entry.directory entries).ImportsClimbAtMost extract shared.length) :
    ∃ r s, a.run extract tree = .ok r ∧ b.run extract otherTree = .ok s ∧ s.report = r.report := by
  refine ⟨_, _, run_eq_ok_iff.mpr ⟨ha.fault?_eq_none, rfl⟩, run_eq_ok_iff.mpr ⟨hb.fault?_eq_none, rfl⟩,
    ?_⟩
  have hfindings := ha.map_entry_findings hb hconfig hclimb
  refine Report.ext_bucket (fun severity => ?_) ?_
  · rw [bucket_report_result_eq_filter hb.wellNamed, bucket_report_result_eq_filter ha.wellNamed,
      hfindings]
  · have hlength := congrArg List.length hfindings
    rw [List.length_map, List.length_map] at hlength
    have hfiles : (b.result extract otherTree).files.length = (a.result extract tree).files.length := by
      change (b.collector.collect otherTree b.root).length = (a.collector.collect tree a.root).length
      rw [a.collector.collect_eq_map_sourcePlaces ha.wellNamed ha.find,
        b.collector.collect_eq_map_sourcePlaces hb.wellNamed hb.find, List.length_map,
        List.length_map, collector, collector, hconfig]
    rw [stats_report_result hb.wellNamed, stats_report_result ha.wellNamed, hlength, hfiles]

/-- A directory lies below roots of different depth, and one of its files imports by a way that leads
above the root and back. -/
theorem reports_alike_wherever_placed_deeper :
    let entries : List (String × Entry) := [("domain", .directory [("User.ts", .file (.ok []))])]
    let tree : FileTree := ⟨[("a", .directory [("src", .directory entries)])]⟩
    let otherTree : FileTree :=
      ⟨[("work", .directory [("b", .directory [("src", .directory entries)])])]⟩
    let extract : Extractor := fun _ => .ok ⟨[⟨1, "../../src/infrastructure/Db"⟩], [], [], []⟩
    let options : AnalysisOptions := ⟨false, .console, false, false⟩
    let a : Analysis := ⟨⟨"/a/src"⟩, options, .default⟩
    let b : Analysis := ⟨⟨"/work/b/src"⟩, options, .default⟩
    (a.LiesAt tree (["a"] ++ ["src"]) entries ∧ b.LiesAt otherTree (["work", "b"] ++ ["src"]) entries ∧
        (Entry.directory entries).ImportsClimbAtMost extract ["src"].length) ∧
      ∃ r s, a.run extract tree = .ok r ∧ b.run extract otherTree = .ok s ∧ s.report = r.report := by
  intro entries tree otherTree extract options a b
  have ha : a.LiesAt tree (["a"] ++ ["src"]) entries :=
    ⟨by decide, by decide, FileTree.find_of_at? ["a", "src"] (by decide) (by decide) rfl (by simp)
      (by decide)⟩
  have hb : b.LiesAt otherTree (["work", "b"] ++ ["src"]) entries :=
    ⟨by decide, by decide, FileTree.find_of_at? ["work", "b", "src"] (by decide) (by decide) rfl
      (by simp) (by decide)⟩
  have hclimb : (Entry.directory entries).ImportsClimbAtMost extract ["src"].length := by
    intro directories name bytes text facts hbelow _ _ hfacts i hi _
    obtain rfl := Except.ok.inj hfacts
    obtain rfl := List.mem_singleton.mp hi
    -- the only file lies one directory down
    let c : Collector := ⟨[], []⟩
    have hplaces : c.placesAt (.directory entries) = [["domain", "User.ts"]] := by
      simp [c, entries, Collector.placesAt, Collector.placesBelow, Collector.inOrder, Collector.skips]
    have hfile : directories ++ [name] ∈ c.placesAt (.directory entries) :=
      (Collector.mem_placesAt_iff ha.entries_wellNamed).mpr ⟨⟨bytes, hbelow⟩, fun _ _ => rfl⟩
    rw [hplaces, List.mem_singleton] at hfile
    have hdirectories := congrArg List.dropLast hfile
    rw [List.dropLast_concat] at hdirectories
    rw [hdirectories]
    decide
  exact ⟨⟨ha, hb, hclimb⟩, reports_alike_wherever_placed extract rfl ha hb hclimb⟩

end Analysis

end LayerAudit
