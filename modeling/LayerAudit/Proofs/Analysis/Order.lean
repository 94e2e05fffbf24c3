import LayerAudit.Proofs.Analysis.Provenance

/-!
# The order of a report

Main statement: the lists of a report are made of groups in a fixed order, and each group goes by the
files in the order of their paths and by what stands in a file in the order of its text. So equal
sources are reported in equal order, whatever a file system lists first.

The order within a file is that in which the nodes of its tree are met, outer nodes before inner ones.
This is the order of lines as far as the parser puts the nodes in that order.
-/

namespace LayerAudit

namespace Topic

/-- Whether a violation is one of a topic, in the report of a run from a root. -/
def Shows (root : Path) (v : Violation) (t : Topic) : Prop :=
  v.file = t.file.relativeTo root ∧ v.code = t.code ∧ v.line = t.subject.map Subject.line ∧
    Mentions v.message t.mention

/-- Whether violations come group by group. In each group they keep to the order of its topics, with
one violation at most for each of them. -/
def ComeIn (root : Path) (groups : List (List Topic)) (violations : List Violation) : Prop :=
  ∃ parts, violations = parts.flatten ∧
    List.Forall₂ (List.SublistForall₂ (Shows root)) parts groups

/-- What findings are recorded as comes in the groups whose topics the findings keep to. -/
theorem Ordered.comeIn {findings : List Finding} {groups : List (List Topic)}
    (h : Ordered findings groups.flatten) (s : Store) (severity : Severity) :
    ComeIn s.root groups (findings.map (s.violation severity)) := by
  refine List.SublistForall₂.exists_parts (List.sublistForall₂_map_left_iff.mpr (h.imp ?_))
  rintro f t ⟨hfile, hcode, hline, hmention⟩
  exact ⟨congrArg (Path.relativeTo · s.root) hfile, hcode, hline, hmention⟩

/-- What a severity's violations are about in a file: the groups that a report lists one after the
other. -/
def groups : Severity → List (SourceFile → List Topic)
  | .error =>
    [ofImports .layerViolation, ofInterfaces .repositoryLocation, ofClasses .repositoryLocation,
      ofClasses .errorInheritance]
  | .warning =>
    [fun file => file.facts.interfaces.flatMap (ofNames file), ofClasses .repositoryDi,
      fun file => ofInterfaces .serviceLocation file ++ ofClasses .serviceDi file,
      ofClasses .useDomainError, fun file => [whole .anyType file]]
  | .info => [fun file => [whole .multipleInterfaces file]]

/-- The topics of one severity are told apart list by list. -/
@[simp] theorem ofSeverity_append (severity : Severity) (before after : List Topic) :
    ofSeverity severity (before ++ after) =
      ofSeverity severity before ++ ofSeverity severity after := List.filter_append ..

/-- The topics of one severity are told apart item by item. -/
@[simp] theorem ofSeverity_flatMap {α : Type} (severity : Severity) (items : List α)
    (topics : α → List Topic) : ofSeverity severity (items.flatMap topics) =
      items.flatMap fun x => ofSeverity severity (topics x) := List.filter_flatMap ..

/-- Items of which nothing is left leave nothing. -/
theorem flatMap_nothing {α : Type} (items : List α) : items.flatMap (fun _ => ([] : List Topic)) = [] :=
  List.flatMap_eq_nil_iff.mpr fun _ _ => rfl

/-- Topics that are all of one severity are of no other. -/
theorem ofSeverity_eq_ite {topics : List Topic} {weight : Severity}
    (h : ∀ t ∈ topics, t.code.severity = weight) (severity : Severity) :
    ofSeverity severity topics = if weight = severity then topics else [] := by
  have hall (t : Topic) (ht : t ∈ topics) :
      decide (t.code.severity = severity) = decide (weight = severity) := by rw [h t ht]
  rw [ofSeverity, filter_eq_ite hall]
  simp only [decide_eq_true_eq]

/-- Topics that all have one code are of its severity. -/
theorem ofSeverity_map {α : Type} (topic : α → Topic) {code : Code}
    (hcode : ∀ x, (topic x).code = code) (items : List α) (severity : Severity) :
    ofSeverity severity (items.map topic) =
      if code.severity = severity then items.map topic else [] := by
  refine ofSeverity_eq_ite (fun t ht => ?_) severity
  obtain ⟨x, -, rfl⟩ := List.mem_map.mp ht
  rw [hcode]

/-- Of the topics with one code that the imports of a file have, all or none are of a severity. -/
theorem ofSeverity_ofImports (code : Code) (file : SourceFile) (severity : Severity) :
    ofSeverity severity (ofImports code file) =
      if code.severity = severity then ofImports code file else [] :=
  ofSeverity_map (ofImport code file) (fun _ => rfl) _ severity

/-- Of the topics with one code that the interfaces of a file have, all or none are of a severity. -/
theorem ofSeverity_ofInterfaces (code : Code) (file : SourceFile) (severity : Severity) :
    ofSeverity severity (ofInterfaces code file) =
      if code.severity = severity then ofInterfaces code file else [] :=
  ofSeverity_map (ofInterface code file) (fun _ => rfl) _ severity

/-- Of the topics with one code that the classes of a file have, all or none are of a severity. -/
theorem ofSeverity_ofClasses (code : Code) (file : SourceFile) (severity : Severity) :
    ofSeverity severity (ofClasses code file) =
      if code.severity = severity then ofClasses code file else [] :=
  ofSeverity_map (ofClass code file) (fun _ => rfl) _ severity

/-- The topic of a whole file is of the severity of its code. -/
theorem ofSeverity_whole (code : Code) (file : SourceFile) (severity : Severity) :
    ofSeverity severity [whole code file] =
      if code.severity = severity then [whole code file] else [] :=
  ofSeverity_eq_ite (List.forall_mem_singleton.mpr rfl) severity

/-- Of two topics for each class, an error and a warning, a severity leaves one or none. -/
theorem ofSeverity_ofClassPairs {code other : Code} (hcode : code.severity = .error)
    (hother : other.severity = .warning) (file : SourceFile) (severity : Severity) :
    ofSeverity severity (ofClassPairs code other file) =
      match severity with
      | .error => ofClasses code file
      | .warning => ofClasses other file
      | .info => [] := by
  have hclass (k : Class) : (ofClass code file k).code.severity = .error ∧
      (ofClass other file k).code.severity = .warning := ⟨hcode, hother⟩
  rw [ofSeverity, ofClassPairs, List.filter_flatMap]
  cases severity with
  | error | warning => simp [hclass, ofClasses, List.map_eq_flatMap]
  | info => simp [hclass]

/-- Of what is looked at with interfaces, the names are warnings and their number is not. -/
theorem ofSeverity_interfaceTopics (file : SourceFile) (severity : Severity) :
    ofSeverity severity (Rule.InterfaceConvention.topics file) =
      match severity with
      | .error => []
      | .warning => file.facts.interfaces.flatMap (ofNames file)
      | .info => [whole .multipleInterfaces file] := by
  have hnames (i : Interface) : ofSeverity severity (ofNames file i) =
      if Severity.warning = severity then ofNames file i else [] := by
    refine ofSeverity_eq_ite (fun t ht => ?_) severity
    rcases List.mem_pair.mp ht with rfl | rfl <;> rfl
  rw [Rule.InterfaceConvention.topics, List.append_cons, ofSeverity_append, ofSeverity_append,
    ofSeverity_flatMap, ofSeverity_flatMap, ofSeverity_whole]
  simp only [hnames]
  cases severity with
  | error | info => simp [Code.severity, flatMap_nothing]
  | warning =>
    simp only [Code.severity, reduceIte, reduceCtorEq, List.append_nil]
    rw [← List.flatMap_append, List.take_append_drop]

/-- Of all that the rules look at, pass by pass, a severity leaves its groups. -/
theorem ofSeverity_rules (files : List SourceFile) (severity : Severity) :
    ofSeverity severity
        (Rule.all.flatMap fun r => r.topics.flatMap fun pass => files.flatMap pass) =
      ((groups severity).map fun group => files.flatMap group).flatten := by
  have hrepositories := ofSeverity_ofClassPairs
    (rfl : Code.repositoryLocation.severity = .error) (rfl : Code.repositoryDi.severity = .warning)
  have herrors := ofSeverity_ofClassPairs
    (rfl : Code.errorInheritance.severity = .error) (rfl : Code.useDomainError.severity = .warning)
  simp only [Rule.all, Rule.topics, List.flatMap_cons, List.flatMap_nil, List.append_nil,
    ofSeverity_append, ofSeverity_flatMap, ofSeverity_ofImports, ofSeverity_ofInterfaces,
    ofSeverity_ofClasses, ofSeverity_whole, ofSeverity_interfaceTopics, hrepositories, herrors]
  cases severity with
  | error | warning | info => simp [groups, Code.severity, flatMap_nothing]

end Topic

namespace Analysis

variable {a : Analysis} {extract : Extractor} {tree : FileTree}

/-- Failures to parse keep to the order of the paths. -/
theorem ordered_failures (load : Path → Except LoadFault SourceFile) (paths : List Path) :
    Topic.Ordered (paths.flatMap (failureFindings load)) (paths.map Topic.failure) := by
  refine .flatMap_map fun p _ => ?_
  unfold failureFindings
  split
  · exact .nil
  · exact .cons (Topic.isOf_whole _ _ _) .nil

/-- What the enabled rules find keeps to the order of the rules, and in a rule to that of its passes. -/
theorem ordered_ruleFindings (a : Analysis) (files : List SourceFile) :
    Topic.Ordered (a.ruleFindings files)
      (Rule.all.flatMap fun r => r.topics.flatMap fun pass => files.flatMap pass) :=
  .of_sublist (List.filter_sublist.flatMap _)
    (.flatMap fun r _ => r.ordered_findings a.classifier files)

/-- The topics of a severity in some files, group by group. -/
def topicsIn (files : List SourceFile) (severity : Severity) : List (List Topic) :=
  (Topic.groups severity).map fun group => files.flatMap group

/-- What a run finds of one severity keeps to the groups of the severity, the failures before all
others. -/
theorem ordered_found (a : Analysis) (load : Path → Except LoadFault SourceFile) (paths : List Path)
    (severity : Severity) :
    Topic.Ordered (Store.ofSeverity severity (a.found load paths))
      ((if Severity.error = severity then paths.map Topic.failure else []) ++
        (topicsIn (Session.loadedFiles load paths) severity).flatten) := by
  have hfailures := (ordered_failures load paths).ofSeverity severity
  have hrules := (a.ordered_ruleFindings (Session.loadedFiles load paths)).ofSeverity severity
  rw [Topic.ofSeverity_map Topic.failure (fun _ => rfl)] at hfailures
  rw [Topic.ofSeverity_rules] at hrules
  rw [found, Store.ofSeverity, List.filter_append]
  exact hfailures.append hrules

/-- The report of a run has one order. Its errors are the failures, the imports that lead outward, the
contracts of repositories and the repositories that are out of place, and the error classes that extend
no error; its warnings are what is said of the names of interfaces and their files, of the constructors
of repositories, of services, of error classes of the domain, and of annotations; what is shown on
demand is that files have several interfaces. Each group goes by the files in the order of their paths,
and in a file by the imports or declarations in the order in which the nodes of its tree are met, which
is the order of lines if these nodes are. -/
theorem report_keeps_order (a : Analysis) {parse : String → Syntax.Node} {tree : FileTree}
    (htree : tree.wellNamed = true) {r : Result} (hrun : a.run (.ofTrees parse) tree = .ok r) :
    let files := r.parsed.cache.files
    (r.files.Pairwise Path.Before ∧ files.Pairwise fun f g => f.path.Before g.path) ∧
    (∀ file ∈ files, file.path ∈ r.files ∧
      SourceFile.load (.ofTrees parse) tree file.path = .ok file ∧
      file.facts = (parse file.content).facts file.content ∧
      ((parse file.content).RowsAscend → file.facts.LinesAscend)) ∧
    Topic.ComeIn a.root (r.files.map Topic.failure :: topicsIn files .error) r.report.errors ∧
    Topic.ComeIn a.root (topicsIn files .warning) r.report.warnings ∧
    Topic.ComeIn a.root (topicsIn files .info) r.report.info := by
  obtain ⟨-, rfl⟩ := run_eq_ok_iff.mp hrun
  intro files
  have hfiles : files = Session.loadedFiles (SourceFile.load (.ofTrees parse) tree)
      (a.collector.collect tree a.root) := (parsed_result a _ htree).1
  have hordered := a.ordered_found (SourceFile.load (.ofTrees parse) tree)
    (a.collector.collect tree a.root)
  rw [← hfiles] at hordered
  have hpaths := a.collector.pairwise_collect htree a.root
  have hbucket (severity : Severity) :
      (a.result (.ofTrees parse) tree).report.bucket severity = _ :=
    bucket_report_result htree severity
  refine ⟨⟨hpaths, ?_⟩, fun file hfile => ?_, ?_, ?_, ?_⟩
  · rw [hfiles]
    exact Session.pairwise_loadedFiles SourceFile.path_of_load hpaths
  · rw [hfiles] at hfile
    obtain ⟨p, hp, hload⟩ := Session.mem_loadedFiles.mp hfile
    obtain rfl := SourceFile.path_of_load hload
    have hfacts := SourceFile.facts_of_load hload
    exact ⟨hp, hload, hfacts, fun hrows => hfacts ▸ hrows.linesAscend file.content⟩
  · change Topic.ComeIn _ _ ((a.result (.ofTrees parse) tree).report.bucket .error)
    rw [hbucket]
    exact Topic.Ordered.comeIn (hordered .error) (.empty a.root) .error
  · change Topic.ComeIn _ _ ((a.result (.ofTrees parse) tree).report.bucket .warning)
    rw [hbucket]
    exact Topic.Ordered.comeIn (hordered .warning) (.empty a.root) .warning
  · change Topic.ComeIn _ _ ((a.result (.ofTrees parse) tree).report.bucket .info)
    rw [hbucket]
    exact Topic.Ordered.comeIn (hordered .info) (.empty a.root) .info

/-- The errors of a run that finds one class keep to the topics of its file, whose facts come line by
line. -/
theorem report_keeps_order_repository :
    let r := repositoryRun.result (.ofTrees repositoryParser) repositoryTree
    (repositoryTree.wellNamed = true ∧
      repositoryRun.run (.ofTrees repositoryParser) repositoryTree = .ok r) ∧
      Topic.ComeIn repositoryRun.root
        ([Topic.failure repositoryFile.path] :: topicsIn [repositoryFile] .error) r.report.errors ∧
      repositoryFile.facts.LinesAscend := by
  intro r
  have htree : repositoryTree.wellNamed = true := by decide
  have hfiles : r.parsed.cache.files = [repositoryFile] := by
    have hparsed : r.parsed.cache.files = _ := (parsed_result _ _ htree).1
    rw [hparsed, collect_repositoryTree]
    simp [Session.loadedFiles, load_repositoryFile, Except.toOption]
  have hcollected : r.files = [repositoryFile.path] := collect_repositoryTree
  have hrows : (repositoryParser repositoryText).RowsAscend := by
    unfold Syntax.Node.RowsAscend
    decide
  obtain ⟨-, hsource, herrors, -, -⟩ := report_keeps_order repositoryRun htree run_repositoryRun
  rw [hfiles] at hsource herrors
  rw [hcollected] at herrors
  obtain ⟨-, -, -, hlines⟩ := hsource repositoryFile List.mem_cons_self
  exact ⟨⟨htree, run_repositoryRun⟩, herrors, hlines hrows⟩

end Analysis

end LayerAudit
