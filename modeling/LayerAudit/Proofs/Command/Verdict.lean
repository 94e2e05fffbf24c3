import LayerAudit.Command.Run
import LayerAudit.Proofs.Analysis.Report
import LayerAudit.Proofs.FileTree.Ways

/-!
# The verdict of a check

Main statement: what a check comes to depends on the settings that are in force, on the source root that
they name and on the report of the run, and on nothing else. Settings of no use end it before anything is
written, and so does a source root that is no directory. Otherwise the output is the report as it was
asked for, and the exit code tells whether the report has errors. The switches of the command choose how
the report is shown; the report is the same for all of them.

The words of the command line are read by the program's own reader, so this is said of all words that it
takes for a check.
-/

namespace LayerAudit

/-- Settings have no problem if they name rules that there are, and a source root. -/
theorem Config.problem?_eq_none_iff {c : Config} {known : List String} :
    c.problem? known = none ↔ (∀ rule ∈ c.rules, rule.1 ∈ known) ∧ c.analyzer.root.text ≠ "" := by
  unfold problem?
  split
  next rule hfound =>
    have hunknown := List.find?_some hfound
    rw [Bool.not_eq_true', List.contains_eq_mem, decide_eq_false_iff_not] at hunknown
    refine iff_of_false (fun h => by cases h) fun h => ?_
    exact hunknown (h.1 rule (List.mem_of_find?_eq_some hfound))
  next hnone =>
    rw [List.find?_eq_none] at hnone
    have hknown : ∀ rule ∈ c.rules, rule.1 ∈ known := fun rule hrule => by
      simpa using hnone rule hrule
    rw [and_iff_right hknown, ite_eq_right_iff, String.isEmpty_iff]
    simp

/-- Settings make sense if they have no problem. -/
theorem Config.validate_eq_ok_iff {c : Config} {known : List String} :
    c.validate known = .ok () ↔ c.problem? known = none := by
  unfold validate
  split
  next problem hproblem => simp [hproblem]
  next hnone => simp [hnone]

/-- A source gives the defaults if it has no file, and else the settings that its file holds. -/
theorem ConfigSource.load_eq_ok_iff {tree : FileTree} {directory : Path} {source : ConfigSource}
    {c : Config} : source.load tree directory = .ok c ↔
      source.path? = none ∧ c = .default ∨
        ∃ path bytes text, source.path? = some path ∧ tree.read (directory.join path) = .ok bytes ∧
          Text.decodeUtf8 bytes = .ok text ∧ Config.parse text = .ok c := by
  unfold load
  cases hpath : source.path? with
  | none => simp [eq_comm]
  | some path =>
    change Config.ofFile tree directory path = .ok c ↔ _
    unfold Config.ofFile
    cases hread : tree.read (directory.join path) with
    | error fault => simp [hread]
    | ok bytes => cases htext : Text.decodeUtf8 bytes <;> simp [hread, htext]

/-- A run that does not start from a directory ends with a fault. -/
theorem Analysis.exists_run_eq_error {a : Analysis} {extract : Extractor} {tree : FileTree}
    (h : tree.isDirectory a.root = false) : ∃ fault, a.run extract tree = .error fault := by
  unfold run
  cases hfault : a.fault? tree with
  | some fault => exact ⟨fault, rfl⟩
  | none =>
    have hroot := fault?_eq_none_iff_isDirectory.mp hfault
    exact absurd (h.symm.trans hroot) (by decide)

/-- A run from a directory comes to its result. -/
theorem Analysis.run_of_isDirectory {a : Analysis} {extract : Extractor} {tree : FileTree}
    (h : tree.isDirectory a.root = true) : a.run extract tree = .ok (a.result extract tree) :=
  run_eq_ok_iff.mpr ⟨fault?_eq_none_iff_isDirectory.mpr h, rfl⟩

/-- How a run shows its report has no part in what it works out. -/
theorem Analysis.result_options (root : Path) (options other : AnalysisOptions) (c : Config)
    (extract : Extractor) (tree : FileTree) :
    (⟨root, options, c⟩ : Analysis).result extract tree =
      (⟨root, other, c⟩ : Analysis).result extract tree := by
  have henables : (⟨root, options, c⟩ : Analysis).enables = (⟨root, other, c⟩ : Analysis).enables := by
    funext r
    rw [enables, enables]
  simp only [result, collector, parse, check, rules, classifier, henables]

/-- However it shows its report, a run from a directory comes to the same result. -/
theorem Analysis.run_options {root : Path} {extract : Extractor} {tree : FileTree}
    (h : tree.isDirectory root = true) (options other : AnalysisOptions) (c : Config) :
    (⟨root, options, c⟩ : Analysis).run extract tree =
      .ok ((⟨root, other, c⟩ : Analysis).result extract tree) := by
  rw [run_of_isDirectory (a := ⟨root, options, c⟩) h, result_options]

namespace Command

/-- The file that holds the settings for a project, if there is one: the one that is named outright, or
else the first that is there of two in the project's directory and one for all projects. -/
def settingsFile? (s : Surroundings) (named : Option Path) (project : Path) : Option Path :=
  named <|>
    ([project.join ⟨"layerguard.toml"⟩, project.join ⟨".layerguard.toml"⟩] ++
      (s.globalDirectory.map fun directory => directory.join ⟨"config.toml"⟩).toList).find?
        fun path => s.tree.isFile (s.directory.join path)

/-- Whether settings are in force for a project: the defaults if no file holds any, and else those of the
file, if it can be read, is well formed, names only rules that there are, and names a source root. -/
inductive InForce (s : Surroundings) (named : Option Path) (project : Path) : Config → Prop where
  | builtIn (hfile : settingsFile? s named project = none) : InForce s named project .default
  | ofFile {path : Path} {bytes : List UInt8} {text : String} {c : Config}
      (hfile : settingsFile? s named project = some path)
      (hread : s.tree.read (s.directory.join path) = .ok bytes)
      (htext : Text.decodeUtf8 bytes = .ok text) (hparse : Config.parse text = .ok c)
      (hrules : ∀ rule ∈ c.rules, rule.1 ∈ Rule.names) (hroot : c.analyzer.root.text ≠ "") :
      InForce s named project c

/-- Without a file that is named outright, the source has the first of the files that are looked at. -/
theorem path?_find (tree : FileTree) (directory project : Path) (global : Option Path) :
    (ConfigSource.find tree directory project none global).path? =
      (ConfigSource.projectFiles project ++ (ConfigSource.globalFile? global).toList).find?
        fun path => tree.isFile (directory.join path) := by
  unfold ConfigSource.find
  extract_lets isFile
  rw [List.find?_append]
  change _ = ((ConfigSource.projectFiles project).find? isFile).or _
  cases (ConfigSource.projectFiles project).find? isFile with
  | some path => rfl
  | none =>
    cases ConfigSource.globalFile? global with
    | none => rfl
    | some path =>
      cases hfile : isFile path <;> simp [hfile, isFile, Option.filter, ConfigSource.path?]

/-- The source that a check finds has the file with the settings. -/
theorem path?_sourceOf (s : Surroundings) (named : Option Path) (o : CheckOptions) :
    (sourceOf s named o).path? = settingsFile? s named o.project := by
  unfold sourceOf settingsFile?
  cases named with
  | some path => rfl
  | none =>
    rw [path?_find]
    rfl

/-- A check goes by the settings that are in force. -/
theorem configOf_eq_ok_iff {s : Surroundings} {named : Option Path} {o : CheckOptions} {c : Config} :
    configOf s (sourceOf s named o) = .ok c ↔ InForce s named o.project c := by
  have hconfig : configOf s (sourceOf s named o) = .ok c ↔
      (sourceOf s named o).load s.tree s.directory = .ok c ∧ c.problem? Rule.names = none := by
    simp only [configOf, bind_eq_ok_iff, mapError_eq_ok_iff]
    constructor
    · rintro ⟨d, hload, ⟨⟩, hvalid, hsame⟩
      obtain rfl := Except.ok.inj hsame
      exact ⟨hload, Config.validate_eq_ok_iff.mp hvalid⟩
    · rintro ⟨hload, hvalid⟩
      exact ⟨c, hload, (), Config.validate_eq_ok_iff.mpr hvalid, rfl⟩
  rw [hconfig, ConfigSource.load_eq_ok_iff, path?_sourceOf, Config.problem?_eq_none_iff]
  constructor
  · rintro ⟨⟨hfile, rfl⟩ | ⟨path, bytes, text, hfile, hread, htext, hparse⟩, hrules, hroot⟩
    · exact .builtIn hfile
    · exact .ofFile hfile hread htext hparse hrules hroot
  · rintro (hfile | ⟨hfile, hread, htext, hparse, hrules, hroot⟩)
    · exact ⟨Or.inl ⟨hfile, rfl⟩, by simp [Config.default], by decide⟩
    · exact ⟨Or.inr ⟨_, _, _, hfile, hread, htext, hparse⟩, hrules, hroot⟩

/-- Whether words are read as a check with given options. -/
def Asks (words : List String) (verbose : Bool) (named : Option Path) (o : CheckOptions) : Prop :=
  Request.ofWords words = some (.run verbose named (.check o))

instance (words : List String) (verbose : Bool) (named : Option Path) (o : CheckOptions) :
    Decidable (Asks words verbose named o) :=
  inferInstanceAs (Decidable (Request.ofWords words = some (.run verbose named (.check o))))

/-- Words that are read as a check are answered by it. -/
theorem runWords_of_asks {s : Surroundings} {words : List String} {verbose : Bool}
    {named : Option Path} {o : CheckOptions} (h : Asks words verbose named o) :
    runWords s words = runCheck s verbose named o := by
  unfold runWords
  rw [show Request.ofWords words = _ from h]
  rfl

/-- A check without settings in force fails and writes nothing. -/
theorem runCheck_of_not_inForce {s : Surroundings} {named : Option Path} {o : CheckOptions}
    (h : ∀ c, ¬InForce s named o.project c) (verbose : Bool) :
    (runCheck s verbose named o).exitCode = 1 ∧ (runCheck s verbose named o).output = "" := by
  cases hconfig : configOf s (sourceOf s named o) with
  | error message =>
    simp only [runCheck, hconfig]
    exact ⟨rfl, rfl⟩
  | ok c => exact absurd (configOf_eq_ok_iff.mp hconfig) (h c)

/-- With settings in force, a check comes to what the analysis with these settings comes to. -/
theorem runCheck_of_inForce {s : Surroundings} {named : Option Path} {o : CheckOptions} {c : Config}
    (h : InForce s named o.project c) (verbose : Bool) :
    (runCheck s verbose named o).exitCode = (runAnalysis s verbose o c).exitCode ∧
      (runCheck s verbose named o).output = (runAnalysis s verbose o c).output := by
  simp only [runCheck, configOf_eq_ok_iff.mpr h, and_self]

/-- An analysis that does not start has an exit code of its own and writes nothing. -/
theorem runAnalysis_of_error {s : Surroundings} {o : CheckOptions} {c : Config} {fault : AnalysisFault}
    (h : (analysisOf s o c).run Facts.ofTypeScript s.tree = .error fault) (verbose : Bool) :
    (runAnalysis s verbose o c).exitCode = 2 ∧ (runAnalysis s verbose o c).output = "" := by
  unfold runAnalysis
  extract_lets a before
  rw [h]
  exact ⟨rfl, rfl⟩

/-- An analysis that comes to a result writes its report as it was asked for, and fails if there are
errors in it. -/
theorem runAnalysis_of_ok {s : Surroundings} {o : CheckOptions} {c : Config} {r : Analysis.Result}
    (h : (analysisOf s o c).run Facts.ofTypeScript s.tree = .ok r) (verbose : Bool) :
    (runAnalysis s verbose o c).exitCode = (if r.report.errors = [] then 0 else 1) ∧
      (runAnalysis s verbose o c).output = (analysisOf s o c).render r.report := by
  unfold runAnalysis
  extract_lets a before
  rw [h]
  refine ⟨?_, rfl⟩
  cases herrors : r.report.errors <;> simp [Report.hasErrors, herrors, Outcome.failureCode]

/-- An analysis starts at the source root that the settings name. -/
theorem root_analysisOf (s : Surroundings) (o : CheckOptions) (c : Config) :
    (analysisOf s o c).root = (s.directory.join (o.project.join c.analyzer.root)).normalize := by
  rw [analysisOf, Analysis.ofRoot, sourceRoot]

/-- What each request to check a project comes to. Without settings in force it fails and writes nothing.
With settings whose source root is no directory it cannot start, and writes nothing. Otherwise there is one
report, that of the run with these settings, which each such request writes in the form that it asks for,
and by which each fails or succeeds. -/
theorem check_verdict (s : Surroundings) (named : Option Path) (project : Path) :
    ((∀ c, ¬InForce s named project c) → ∀ words verbose o, Asks words verbose named o →
      o.project = project → (runWords s words).exitCode = 1 ∧ (runWords s words).output = "") ∧
    ∀ c, InForce s named project c →
      let root := (s.directory.join (project.join c.analyzer.root)).normalize
      (s.tree.isDirectory root = false → ∀ words verbose o, Asks words verbose named o →
        o.project = project → (runWords s words).exitCode = 2 ∧ (runWords s words).output = "") ∧
      (s.tree.isDirectory root = true → ∃ r : Report,
        (∀ options, ((⟨root, options, c⟩ : Analysis).run Facts.ofTypeScript s.tree).map
          Analysis.Result.report = .ok r) ∧
        ∀ words verbose o, Asks words verbose named o → o.project = project →
          let format := o.format.getD c.output.format
          (runWords s words).exitCode = (if r.errors = [] then 0 else 1) ∧
            (runWords s words).output =
              r.render format ⟨o.detailed || c.output.detailed, s.terminal && format = .console⟩) := by
  refine ⟨fun hnone words verbose o hasks hproject => ?_, fun c hforce => ?_⟩
  · subst hproject
    rw [runWords_of_asks hasks]
    exact runCheck_of_not_inForce hnone verbose
  intro root
  refine ⟨fun hroot words verbose o hasks hproject => ?_, fun hroot => ?_⟩
  · subst hproject
    obtain ⟨hexit, houtput⟩ := runCheck_of_inForce hforce verbose
    have hstart : s.tree.isDirectory (analysisOf s o c).root = false := by
      rw [root_analysisOf]
      exact hroot
    obtain ⟨fault, hfault⟩ := Analysis.exists_run_eq_error hstart
    rw [runWords_of_asks hasks, hexit, houtput]
    exact runAnalysis_of_error hfault verbose
  · let a : Analysis := ⟨root, default, c⟩
    have hrun (options : AnalysisOptions) : (⟨root, options, c⟩ : Analysis).run Facts.ofTypeScript s.tree =
        .ok (a.result Facts.ofTypeScript s.tree) := Analysis.run_options hroot options default c
    refine ⟨(a.result Facts.ofTypeScript s.tree).report, fun options => ?_, ?_⟩
    · rw [hrun options]
      rfl
    · intro words verbose o hasks hproject
      subst hproject
      obtain ⟨hexit, houtput⟩ := runCheck_of_inForce hforce verbose
      rw [runWords_of_asks hasks, hexit, houtput]
      exact runAnalysis_of_ok (hrun _) verbose

/-- Two checks with settings that are named outright show one report, each in its own form. -/
theorem check_verdict_named :
    let tree : FileTree :=
      ⟨[("work", .directory [("c.toml", .file (.ok [])), ("src", .directory [])])]⟩
    let s : Surroundings := ⟨tree, ⟨"/work"⟩, none, false⟩
    let brief := runWords s ["check", "-c", "c.toml", "--json"]
    let long := runWords s ["-v", "-c", "c.toml", "check", "--detailed", "--fix"]
    InForce s (some ⟨"c.toml"⟩) ⟨"."⟩ .default ∧ tree.isDirectory ⟨"/work/src"⟩ = true ∧
      ∃ r : Report, brief.exitCode = (if r.errors = [] then 0 else 1) ∧
        long.exitCode = brief.exitCode ∧ brief.output = r.render .json ⟨false, false⟩ ∧
        long.output = r.render .console ⟨true, false⟩ := by
  intro tree s brief long
  have hread : tree.find (s.directory.join ⟨"c.toml"⟩) = .ok (.file (.ok [])) :=
    FileTree.find_of_at? ["work", "c.toml"] (by decide) (by decide) rfl (by simp) (by decide)
  have hfind : tree.find ⟨"/work/src"⟩ = .ok (.directory []) :=
    FileTree.find_of_at? ["work", "src"] (by decide) (by decide) rfl (by simp) (by decide)
  have hforce : InForce s (some ⟨"c.toml"⟩) ⟨"."⟩ .default :=
    .ofFile rfl (FileTree.read_eq_ok_iff.mpr hread) (by decide : Text.decodeUtf8 [] = .ok "") (by decide)
      (by decide) (by decide)
  have hroot : tree.isDirectory ⟨"/work/src"⟩ = true := by
    rw [FileTree.isDirectory, hfind]
    rfl
  have hplace : (s.directory.join (Path.join ⟨"."⟩ ⟨"src"⟩)).normalize = ⟨"/work/src"⟩ := by decide
  obtain ⟨r, -, hshown⟩ := ((check_verdict s (some ⟨"c.toml"⟩) ⟨"."⟩).2 .default hforce).2
    (hplace ▸ hroot)
  have hbrief := hshown ["check", "-c", "c.toml", "--json"] false ⟨⟨"."⟩, false, some .json, false⟩
    (by decide) rfl
  have hlong := hshown ["-v", "-c", "c.toml", "check", "--detailed", "--fix"] true
    ⟨⟨"."⟩, true, none, true⟩ (by decide) rfl
  exact ⟨hforce, hroot, r, hbrief.1, hlong.1.trans hbrief.1.symm, hbrief.2, hlong.2⟩

end Command

end LayerAudit
