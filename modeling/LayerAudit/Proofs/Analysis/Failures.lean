import LayerAudit.Proofs.Analysis.OneFile
import LayerAudit.Proofs.Path.Showing

/-!
# Failures to parse

Main statement: a run accounts for each file that it collects. The file was either parsed, or it has one
failure and no other violation in the report, whatever its name and its text would have given rise to. So
the files that were parsed and the failures add up to the files that were collected, and to switch rules
off or on changes no failure.

A file fails because it cannot be read, because it is no text, or because the text is not well formed. All
three are treated alike, and which of them it is follows from what is at the path of the file.
-/

namespace LayerAudit

/-- Each path gives a file or a failure. -/
theorem Session.length_loadedFiles_add (load : Path → Except LoadFault SourceFile)
    (paths : List Path) :
    (loadedFiles load paths).length + (paths.flatMap (failureFindings load)).length =
      paths.length := by
  induction paths with
  | nil => rfl
  | cons path paths ih =>
    have hone : (loadedFiles load [path]).length + (failureFindings load path).length = 1 := by
      cases hload : load path <;>
        simp [loadedFiles, failureFindings, Attempt.findings, hload, Except.toOption]
    have hloaded : loadedFiles load (path :: paths) =
        loadedFiles load [path] ++ loadedFiles load paths := List.filterMap_append (l := [path])
    rw [hloaded, List.flatMap_cons, List.length_append, List.length_append, List.length_cons]
    omega

namespace Analysis

variable {a : Analysis} {extract : Extractor} {tree : FileTree}

/-- The cache that a run ends with holds what can be read of the files that are collected. -/
theorem get?_parsed (htree : tree.wellNamed = true) (hstarts : a.fault? tree = none) {p : Path}
    (hp : p ∈ a.collector.collect tree a.root) :
    (a.result extract tree).parsed.cache.get? p = (SourceFile.load extract tree p).toOption := by
  obtain ⟨base, entries, hroot, hbase⟩ := fault?_eq_none_iff.mp hstarts
  have hfiles : (a.result extract tree).parsed.cache.files = _ := (parsed_result a extract htree).1
  have hloaded {file : SourceFile} (hfile : file ∈ (a.result extract tree).parsed.cache.files)
      (hsame : file.path.same p = true) : SourceFile.load extract tree p = .ok file := by
    rw [hfiles] at hfile
    obtain ⟨q, hq, hload⟩ := Session.mem_loadedFiles.mp hfile
    rw [SourceFile.path_of_load hload] at hsame
    have heq : q = p := Collector.eq_of_relativeTo_eq htree hroot hbase hq hp
      (Path.relativeTo_congr (Path.same_iff.mp hsame) _)
    rw [← heq, hload]
  cases hget : (a.result extract tree).parsed.cache.get? p with
  | some file =>
    have hsame := List.find?_some hget
    rw [hloaded (List.mem_of_find?_eq_some hget) hsame]
    rfl
  | none =>
    cases hload : SourceFile.load extract tree p with
    | error fault => rfl
    | ok file =>
      have hmem : file ∈ (a.result extract tree).parsed.cache.files := by
        rw [hfiles]
        exact Session.mem_loadedFiles.mpr ⟨p, hp, hload⟩
      have hsame : file.path.same p = true := by
        rw [SourceFile.path_of_load hload]
        exact Path.same_iff.mpr rfl
      exact absurd hsame (List.find?_eq_none.mp hget file hmem)

/-- The violations of the failures that a report has. -/
def failures (r : Result) : List Violation :=
  r.report.violations.filter fun v => decide (v.code = .parseError)

/-- A file that cannot be parsed has its failure and no other violation. -/
theorem violationsIn_of_load_eq_error (htree : tree.wellNamed = true)
    (hstarts : a.fault? tree = none) {p : Path} (hp : p ∈ a.collector.collect tree a.root)
    {fault : LoadFault} (hload : SourceFile.load extract tree p = .error fault) :
    violationsIn (a.result extract tree) (p.relativeTo a.root) =
      [⟨.error, p.relativeTo a.root, none, .parseError,
        "Failed to parse file: " ++ fault.message⟩] := by
  rw [violationsIn_relativeTo extract htree hstarts hp, found_of_load_eq_error hload]
  rfl

/-- A file that can be parsed has no failure. -/
theorem code_ne_of_load_eq_ok (htree : tree.wellNamed = true) (hstarts : a.fault? tree = none)
    {p : Path} (hp : p ∈ a.collector.collect tree a.root) {file : SourceFile}
    (hload : SourceFile.load extract tree p = .ok file) :
    ∀ v ∈ violationsIn (a.result extract tree) (p.relativeTo a.root), v.code ≠ .parseError := by
  intro v hv hcode
  rw [violationsIn_relativeTo extract htree hstarts hp, found_of_load_eq_ok hload,
    Store.mem_violationsFor_iff] at hv
  obtain ⟨f, hf, rfl⟩ := hv
  exact code_ne_parseError_of_mem_ruleFindings hf hcode

/-- A run has for each collected file either its facts and no failure, or its failure and no other
violation: facts if the file can be read and holds a well-formed text, and the failure for the reason for
which it does not. The files with facts and the failures add up to those that were collected, and which
rules are enabled makes no difference to the failures. -/
theorem failures_accounted_for (a : Analysis) (extract : Extractor) {tree : FileTree}
    (htree : tree.wellNamed = true) {r : Result} (hrun : a.run extract tree = .ok r) :
    r.report.stats.filesScanned = r.parsed.cache.files.length + (failures r).length ∧
      (∀ p ∈ r.files,
        (∃ bytes content facts, (tree.read p = .ok bytes ∧ Text.decodeUtf8 bytes = .ok content ∧
            extract content = .ok facts) ∧ r.parsed.cache.get? p = some ⟨p, content, facts⟩ ∧
          ∀ v ∈ violationsIn r (p.relativeTo a.root), v.code ≠ .parseError) ∨
        ∃ fault : LoadFault, fault.Arises extract tree p ∧ r.parsed.cache.get? p = none ∧
          violationsIn r (p.relativeTo a.root) = [⟨.error, p.relativeTo a.root, none, .parseError,
            "Failed to parse file: " ++ fault.message⟩]) ∧
      (∀ v ∈ failures r, violationsIn r v.file = [v]) ∧
      ∀ rules, (({ a with config := { a.config with rules } } : Analysis).run extract tree).map
        failures = .ok (failures r) := by
  obtain ⟨hstarts, rfl⟩ := run_eq_ok_iff.mp hrun
  have hfailures (b : Analysis) : failures (b.result extract tree) =
      (Store.empty b.root).violationsFor ((b.collector.collect tree b.root).flatMap
        (failureFindings (SourceFile.load extract tree))) :=
    filter_violations_parseError b extract htree
  refine ⟨?_, fun p hp => ?_, fun v hv => ?_, fun rules => ?_⟩
  · rw [stats_report_result htree, hfailures, Store.length_violationsFor,
      (parsed_result a extract htree).1, Session.length_loadedFiles_add]
    rfl
  · have hget : (a.result extract tree).parsed.cache.get? p = _ := get?_parsed htree hstarts hp
    cases hload : SourceFile.load extract tree p with
    | ok file =>
      rw [hload] at hget
      have hnone := code_ne_of_load_eq_ok htree hstarts hp hload
      obtain ⟨bytes, content, facts, hread, hcontent, hfacts, rfl⟩ :=
        SourceFile.load_eq_ok_iff.mp hload
      exact Or.inl ⟨bytes, content, facts, ⟨hread, hcontent, hfacts⟩, hget, hnone⟩
    | error fault =>
      rw [hload] at hget
      exact Or.inr ⟨fault, SourceFile.load_eq_error_iff.mp hload, hget,
        violationsIn_of_load_eq_error htree hstarts hp hload⟩
  · rw [hfailures, Store.mem_violationsFor_iff] at hv
    obtain ⟨f, hf, rfl⟩ := hv
    obtain ⟨p, hp, hfailure⟩ := List.mem_flatMap.mp hf
    unfold failureFindings at hfailure
    split at hfailure
    · exact absurd hfailure List.not_mem_nil
    next fault hload =>
      rw [List.mem_singleton.mp hfailure]
      exact violationsIn_of_load_eq_error htree hstarts hp hload
  · let b : Analysis := { a with config := { a.config with rules } }
    have hother : b.run extract tree = .ok (b.result extract tree) :=
      run_eq_ok_iff.mpr ⟨hstarts, rfl⟩
    change (b.run extract tree).map failures = _
    rw [hother, hfailures a]
    exact congrArg Except.ok (hfailures b)

/-- A file that may not be read and a file whose bytes are no text have their failures alone, though the
places of both would break a rule, and the file beside them is parsed. -/
theorem failures_accounted_for_interface :
    let beside : List (String × Entry) := [("IOrderRepository.ts", .file (.error .denied)),
      ("IUserRepository.ts", .file (.ok [255])), ("User.ts", .file (.ok []))]
    let tree : FileTree := ⟨[("src", .directory [("application", .directory beside)])]⟩
    let extract : Extractor := fun _ => .ok ⟨[], [], [], []⟩
    let a : Analysis := ⟨⟨"/src"⟩, ⟨false, .console, false, false⟩, .default⟩
    let r := a.result extract tree
    (tree.wellNamed = true ∧ a.run extract tree = .ok r) ∧
      r.report.stats.filesScanned = r.parsed.cache.files.length + (failures r).length ∧
      violationsIn r "application/IOrderRepository.ts" =
        [⟨.error, "application/IOrderRepository.ts", none, .parseError,
          "Failed to parse file: cannot read file: Permission denied (os error 13)"⟩] ∧
      violationsIn r "application/IUserRepository.ts" =
        [⟨.error, "application/IUserRepository.ts", none, .parseError,
          "Failed to parse file: " ++ LoadFault.message (.notText ⟨0, some 1⟩)⟩] := by
  intro beside tree extract a r
  have htree : tree.wellNamed = true := by decide
  have hroot : tree.resolve a.root = .ok ["src"] :=
    FileTree.resolve_of_at? ["src"] (by decide) (by decide) rfl (by simp) (by decide)
  have hrun : a.run extract tree = .ok r :=
    run_eq_ok_iff.mpr ⟨fault?_eq_none_iff.mpr ⟨["src"], _, hroot, rfl⟩, rfl⟩
  obtain ⟨hscanned, haccounted, -, -⟩ := failures_accounted_for a extract htree hrun
  -- each of the files is collected, so the reason that there is at its path is what is reported of it
  have halone (name : String) (content : Content)
      (hat : tree.at? ["src", "application", name] = some (.file content))
      (hasked : a.collector.accepts name = true) {fault : LoadFault}
      (hfault : fault.Arises extract tree (Path.descend a.root ["application", name])) {shown : String}
      (hshown : (Path.descend a.root ["application", name]).relativeTo a.root = shown) :
      violationsIn r shown =
        [⟨.error, shown, none, .parseError, "Failed to parse file: " ++ fault.message⟩] := by
    have hcollected : Path.descend a.root ["application", name] ∈ r.files :=
      (Collector.mem_collect_iff htree hroot rfl).mpr
        ⟨["application"], name, content, rfl, hat, hasked, by decide⟩
    have hload := SourceFile.load_eq_error_iff.mpr hfault
    rcases haccounted _ hcollected with ⟨bytes, text, facts, hparsed, -, -⟩ | ⟨other, hother, -, halone⟩
    · have hok := SourceFile.load_eq_ok_iff.mpr
        ⟨bytes, text, facts, hparsed.1, hparsed.2.1, hparsed.2.2, rfl⟩
      exact absurd (hload.symm.trans hok) (by simp)
    · have hsame := Except.error.inj (hload.symm.trans (SourceFile.load_eq_error_iff.mpr hother))
      rwa [hshown, ← hsame] at halone
  have hread (name : String) (hname : (Component.name name).IsInner) (content : Content)
      (hat : tree.at? ["src", "application", name] = some (.file content)) :
      tree.read (Path.descend a.root ["application", name]) = content.mapError .unreadable :=
    FileTree.read_descend hroot (List.forall_mem_cons.mpr ⟨by decide, List.forall_mem_singleton.mpr hname⟩)
      hat
  refine ⟨⟨htree, hrun⟩, hscanned, ?_, ?_⟩
  · have hdenied : "Failed to parse file: " ++ LoadFault.message (.unreadable (.unreadable .denied)) =
        "Failed to parse file: cannot read file: Permission denied (os error 13)" := by decide
    rw [← hdenied]
    exact halone "IOrderRepository.ts" (.error .denied) rfl (by decide)
      (.unreadable (hread "IOrderRepository.ts" (by decide) _ rfl)) (by decide)
  · exact halone "IUserRepository.ts" (.ok [255]) rfl (by decide)
      (.notText (hread "IUserRepository.ts" (by decide) _ rfl)
        (by decide : Text.decodeUtf8 [255] = .error ⟨0, some 1⟩)) (by decide)

end Analysis

end LayerAudit
