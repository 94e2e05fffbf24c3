import LayerAudit.Proofs.Analysis.Bystanders
import LayerAudit.Proofs.Command.Verdict
import LayerAudit.Proofs.FileTree.NewFile
import LayerAudit.Proofs.Text.Utf8
import LayerAudit.Proofs.Toml.Keys

/-!
# Checking a project after it is initialised

Main statement: to initialise a project either leaves everything as it was or puts the default settings
in force. After that a check comes to what the analysis with the defaults came to before, since the new
file is none that is analysed. So a check comes to the same as before if the defaults were in force.

They need not have been. A project's settings may stand in a file of a second name, and initialising
looks only for one of the first name. Where there are settings of the second name, the new file is found
before them, and they cease to be in force.

The new file may come to lie elsewhere, since a link that leads nowhere is followed. That its name is
not that of a source is therefore asked of the place at which it is made.
-/

namespace LayerAudit

/-- A text without a mark in front gives the configuration of the document that is read from its first
character on. -/
theorem Config.parse_eq_ok_of_toList {text : String} {chars : List Char} {c : Config}
    (hchars : text.toList = chars) (hmark : chars.head? ≠ some '\ufeff')
    (hread : (Toml.readLines ⟨.table none .stated [], []⟩ (chars.length + 1) ⟨chars, 0⟩).map
      (fun read => Config.ofToml read.1.document) = some (.ok c)) : Config.parse text = .ok c := by
  obtain ⟨read, hsome, hok⟩ := Option.map_eq_some_iff.mp hread
  unfold Config.parse
  rw [Toml.parse_of_toList hchars hmark]
  simp only [hsome, Option.map_some, hok]
  rfl

namespace Outcome

/-- Whether two outcomes are the same for who reads the output and the exit code. -/
def ShowsAs (a b : Outcome) : Prop := a.exitCode = b.exitCode ∧ a.output = b.output

/-- Outcomes show as each other. -/
theorem ShowsAs.symm {a b : Outcome} (h : a.ShowsAs b) : b.ShowsAs a := ⟨h.1.symm, h.2.symm⟩

/-- What shows as a second outcome shows as every outcome that the second one shows as. -/
theorem ShowsAs.trans {a b c : Outcome} (h : a.ShowsAs b) (hb : b.ShowsAs c) : a.ShowsAs c :=
  ⟨h.1.trans hb.1, h.2.trans hb.2⟩

/-- What is written is there afterwards. -/
theorem treeAfter_of_written {o : Outcome} {s : Surroundings} {path : Path} {text : String}
    {more : FileTree} (h : o.written = some (path, text))
    (hwrite : s.tree.write (s.directory.join path) (Text.encodeUtf8 text) = .ok more) :
    o.treeAfter s = more := by
  simp only [treeAfter, h, hwrite, Except.toOption, Option.getD_some]

end Outcome

namespace Command

set_option maxRecDepth 20000 in
/-- The configuration that a project starts from sets everything to its default. -/
theorem parse_template : Config.parse template = .ok .default := by
  apply Config.parse_eq_ok_of_toList
  case hchars =>
    unfold template
    simp only [String.toList_append, -String.reduceAppend, String.reduceToList, List.cons_append,
      List.nil_append]
    rfl
  case hmark => decide +kernel
  case hread => decide +kernel

/-- The path of the file that initialising makes. -/
def initFile (s : Surroundings) : Path := s.directory.join (Path.join ⟨"."⟩ configFile)

/-- The path of the file of the second name that may hold the settings. -/
def secondFile (s : Surroundings) : Path := s.directory.join (Path.join ⟨"."⟩ ⟨".layerguard.toml"⟩)

/-- Words that are read as initialising are answered by it. -/
theorem runWords_of_init {s : Surroundings} {words : List String} {verbose force : Bool}
    {named : Option Path} (h : Request.ofWords words = some (.run verbose named (.init force))) :
    runWords s words = runInit s force := by
  unfold runWords
  rw [h]
  rfl

/-- Initialising makes no file if something is there or the file cannot be written. Otherwise it makes one
with the configuration to start from where nothing was. -/
theorem runInit_cases (s : Surroundings) :
    ((s.tree.holds (initFile s) = true ∨
        ∃ fault, s.tree.write (initFile s) (Text.encodeUtf8 template) = .error fault) ∧
      (runInit s false).exitCode = 1 ∧ (runInit s false).treeAfter s = s.tree) ∨
      (runInit s false).exitCode = 0 ∧ s.tree.holds (initFile s) = false ∧
        s.tree.write (initFile s) (Text.encodeUtf8 template) = .ok ((runInit s false).treeAfter s) := by
  unfold runInit
  extract_lets path target
  cases hholds : s.tree.holds target with
  | true => exact Or.inl ⟨Or.inl hholds, rfl, rfl⟩
  | false =>
    cases hwrite : s.tree.write target (Text.encodeUtf8 template) with
    | error fault => exact Or.inl ⟨Or.inr ⟨fault, hwrite⟩, rfl, rfl⟩
    | ok more =>
      refine Or.inr ⟨rfl, hholds, hwrite.trans (congrArg Except.ok ?_)⟩
      exact (Outcome.treeAfter_of_written rfl hwrite).symm

/-- The configuration to start from puts the defaults in force. -/
theorem inForce_of_read_initFile {s : Surroundings}
    (h : s.tree.read (initFile s) = .ok (Text.encodeUtf8 template)) :
    InForce s none ⟨"."⟩ .default := by
  have hfirst : s.tree.isFile (s.directory.join (Path.join ⟨"."⟩ ⟨"layerguard.toml"⟩)) = true :=
    FileTree.isFile_of_read h
  have hfile : settingsFile? s none ⟨"."⟩ = some (Path.join ⟨"."⟩ ⟨"layerguard.toml"⟩) := by
    simp only [settingsFile?, List.cons_append, List.find?_cons, hfirst]
    rfl
  exact .ofFile hfile h (Text.decodeUtf8_encodeUtf8 template) parse_template
    (by simp [Config.default]) (by decide)

/-- Where no file holds settings, the defaults are in force. -/
theorem inForce_of_no_file {s : Surroundings} (hfirst : s.tree.isFile (initFile s) = false)
    (hsecond : s.tree.isFile (secondFile s) = false)
    (hglobal : ∀ directory ∈ s.globalDirectory,
      s.tree.isFile (s.directory.join (directory.join ⟨"config.toml"⟩)) = false) :
    InForce s none ⟨"."⟩ .default := by
  refine .builtIn (List.find?_eq_none.mpr fun path hpath => ?_)
  rw [Bool.not_eq_true]
  rcases List.mem_append.mp hpath with hproject | hall
  · rcases List.mem_cons.mp hproject with rfl | hproject
    · exact hfirst
    · obtain rfl := List.mem_singleton.mp hproject
      exact hsecond
  · obtain ⟨directory, hdirectory, rfl⟩ := Option.map_eq_some_iff.mp (Option.mem_toList.mp hall)
    exact hglobal directory hdirectory

/-- What an analysis comes to does not depend on files that no run collects. -/
theorem runAnalysis_without {s : Surroundings} {gone : List String → Bool}
    (hs : s.tree.wellNamed = true) (hgone : ∀ place, gone place = true → Analysis.IsBystander place)
    (verbose : Bool) (o : CheckOptions) (c : Config) :
    (runAnalysis { s with tree := s.tree.without gone } verbose o c).ShowsAs
      (runAnalysis s verbose o c) := by
  let less : Surroundings := { s with tree := s.tree.without gone }
  have hsame : analysisOf less o c = analysisOf s o c := rfl
  have hless : less.tree.isDirectory (analysisOf less o c).root =
      s.tree.isDirectory (analysisOf s o c).root := FileTree.isDirectory_without hs _
  cases hroot : s.tree.isDirectory (analysisOf s o c).root with
  | false =>
    obtain ⟨fault, hfault⟩ := Analysis.exists_run_eq_error hroot
    obtain ⟨faultLess, hfaultLess⟩ := Analysis.exists_run_eq_error (hless.trans hroot)
    obtain ⟨hexit, houtput⟩ := runAnalysis_of_error hfault verbose
    obtain ⟨hexitLess, houtputLess⟩ := runAnalysis_of_error hfaultLess verbose
    exact ⟨hexitLess.trans hexit.symm, houtputLess.trans houtput.symm⟩
  | true =>
    have hreport : ((analysisOf less o c).result Facts.ofTypeScript less.tree).report =
        ((analysisOf s o c).result Facts.ofTypeScript s.tree).report :=
      hsame ▸ Analysis.report_without_bystanders hs hgone hroot
    obtain ⟨hexit, houtput⟩ := runAnalysis_of_ok (Analysis.run_of_isDirectory hroot) verbose
    obtain ⟨hexitLess, houtputLess⟩ :=
      runAnalysis_of_ok (Analysis.run_of_isDirectory (hless.trans hroot)) verbose
    rw [hreport] at hexitLess houtputLess
    rw [hsame] at houtputLess
    exact ⟨hexitLess.trans hexit.symm, houtputLess.trans houtput.symm⟩

/-- To initialise a project fails and changes nothing if something is at the path of the new file or it
cannot be written; otherwise it puts the default settings in force. If the file that it makes is none that
is analysed, a check then comes to what the analysis with the defaults came to before; and unless a file of
the second name held the settings, it comes to what it came to before. -/
theorem init_puts_defaults_in_force (s : Surroundings) (hs : s.tree.wellNamed = true)
    (hglobal : ∀ directory ∈ s.globalDirectory,
      s.tree.isFile (s.directory.join (directory.join ⟨"config.toml"⟩)) = false)
    {start words : List String} {loud verbose : Bool} {named : Option Path} {o : CheckOptions}
    (hstart : Request.ofWords start = some (.run loud named (.init false)))
    (hasks : Asks words verbose none o) (hproject : o.project = ⟨"."⟩) :
    let init := runWords s start
    let after : Surroundings := { s with tree := init.treeAfter s }
    ((s.tree.holds (initFile s) = true ∨
          ∃ fault, s.tree.write (initFile s) (Text.encodeUtf8 template) = .error fault) ∧
        init.exitCode = 1 ∧ after = s ∨
      init.exitCode = 0 ∧ InForce after none ⟨"."⟩ .default) ∧
    ((∀ place, s.tree.placeFor FileTree.maxLinks (initFile s) = .ok place →
        Analysis.IsBystander place) →
      (init.exitCode = 0 → (runWords after words).ShowsAs (runAnalysis s verbose o .default)) ∧
      (s.tree.isFile (secondFile s) = false → (runWords after words).ShowsAs (runWords s words))) := by
  intro init after
  have hinit : init = runInit s false := runWords_of_init hstart
  have hcheck (other : Surroundings) {c : Config} (hforce : InForce other none ⟨"."⟩ c) :
      (runWords other words).ShowsAs (runAnalysis other verbose o c) := by
    rw [runWords_of_asks hasks]
    exact runCheck_of_inForce (hproject ▸ hforce) verbose
  rcases runInit_cases s with ⟨hwhy, hexit, hkept⟩ | ⟨hexit, hnew, hwrite⟩
  · have hsame : after = s := by
      simp only [after, hinit, hkept]
    rw [hsame, hinit]
    refine ⟨Or.inl ⟨hwhy, hexit, rfl⟩, fun _ => ⟨fun hzero => ?_, fun _ => ⟨rfl, rfl⟩⟩⟩
    exact absurd (hexit.symm.trans hzero) (by decide)
  · obtain ⟨place, hplace, hgood, hread, hback⟩ := FileTree.write_of_not_holds hs hnew hwrite
    rw [← hinit] at hgood hread hback hexit
    have hforce : InForce after none ⟨"."⟩ .default := inForce_of_read_initFile hread
    refine ⟨Or.inr ⟨hexit, hforce⟩, fun hbystander => ?_⟩
    have hanalysis : (runWords after words).ShowsAs (runAnalysis s verbose o .default) := by
      have hgone (other : List String) (h : decide (other = place) = true) :
          Analysis.IsBystander other := of_decide_eq_true h ▸ hbystander place hplace
      have hless : { after with tree := after.tree.without fun other => decide (other = place) } = s := by
        simp only [after, hback]
      have hbefore := runAnalysis_without (s := after) hgood hgone verbose o .default
      rw [hless] at hbefore
      exact (hcheck after hforce).trans hbefore.symm
    refine ⟨fun _ => hanalysis, fun hsecond => ?_⟩
    have hbefore := inForce_of_no_file (FileTree.isFile_eq_false hnew) hsecond hglobal
    exact hanalysis.trans (hcheck s hbefore).symm

/-- A project whose settings stand in a file of the second name, and name a source root that is not
there. -/
def secondNameProject : Surroundings where
  tree :=
    ⟨[("work", .directory
      [(".layerguard.toml", .file (Text.encodeUtf8 "[analyzer]\nroot = \"lib\"\n")),
        ("src", .directory [])])]⟩
  directory := ⟨"/work"⟩
  globalDirectory := none
  terminal := false

/-- What its settings say. -/
def secondNameConfig : Config := ⟨⟨⟨"lib"⟩, []⟩, .default, []⟩

/-- The file that initialising makes is not there. -/
theorem resolve_initFile_secondNameProject :
    secondNameProject.tree.resolve (initFile secondNameProject) = .error .notFound := by
  have hpieces : FileTree.pieces (initFile secondNameProject) = ["", "work", ".", "layerguard.toml"] := by
    decide
  rw [FileTree.resolve_eq_error_iff (by decide), hpieces]
  simp [FileTree.follow, FileTree.at?, FileTree.top, Entry.child?, secondNameProject,
    List.lookup_cons]

/-- It would be made in the project's directory. -/
theorem placeFor_initFile_secondNameProject :
    secondNameProject.tree.placeFor FileTree.maxLinks (initFile secondNameProject) =
      .ok ["work", "layerguard.toml"] := by
  have hsplit : FileTree.splitLast (initFile secondNameProject) = (⟨"/work/."⟩, "layerguard.toml") := by
    decide
  have hpieces : FileTree.pieces ⟨"/work/."⟩ = ["", "work", "."] := by decide
  have hway : secondNameProject.tree.Leads FileTree.maxLinks [] ["", "work", "."] ["work"] :=
    .stay rfl (Or.inl rfl) (.down (by decide) rfl (fun _ => Entry.noConfusion)
      (.stay rfl (Or.inr rfl) .arrived))
  have hparent : secondNameProject.tree.resolve ⟨"/work/."⟩ = .ok ["work"] :=
    FileTree.resolve_eq_ok_iff.mpr ⟨by decide, hpieces ▸ hway⟩
  rw [FileTree.maxLinks, FileTree.placeFor, resolve_initFile_secondNameProject]
  simp only [hsplit, hparent]
  rfl

/-- So nothing keeps it from being made. -/
theorem holds_initFile_secondNameProject :
    secondNameProject.tree.holds (initFile secondNameProject) = false := by
  rw [FileTree.holds, FileTree.find, resolve_initFile_secondNameProject]
  rfl

/-- And it can be written. -/
theorem exists_write_secondNameProject (bytes : List UInt8) :
    ∃ more, secondNameProject.tree.write (initFile secondNameProject) bytes = .ok more := by
  rw [FileTree.write, placeFor_initFile_secondNameProject]
  exact ⟨_, rfl⟩

/-- Its settings are in force before that. -/
theorem inForce_secondNameProject : InForce secondNameProject none ⟨"."⟩ secondNameConfig := by
  let s := secondNameProject
  have hpieces : FileTree.pieces (secondFile s) = ["", "work", ".", ".layerguard.toml"] := by decide
  have hway : s.tree.Leads FileTree.maxLinks [] ["", "work", ".", ".layerguard.toml"]
      [".layerguard.toml", "work"] :=
    .stay rfl (Or.inl rfl) (.down (by decide) rfl (fun _ => Entry.noConfusion)
      (.stay rfl (Or.inr rfl) (.down (by decide) rfl (fun _ => Entry.noConfusion) .arrived)))
  have hplace : s.tree.resolve (secondFile s) = .ok ["work", ".layerguard.toml"] :=
    FileTree.resolve_eq_ok_iff.mpr ⟨by decide, hpieces ▸ hway⟩
  have hread : s.tree.read (secondFile s) = .ok (Text.encodeUtf8 "[analyzer]\nroot = \"lib\"\n") :=
    FileTree.read_eq_ok_iff.mpr (FileTree.find_eq_ok_iff.mpr ⟨_, hplace, rfl⟩)
  have hfirst : s.tree.isFile (s.directory.join (Path.join ⟨"."⟩ ⟨"layerguard.toml"⟩)) = false :=
    FileTree.isFile_eq_false holds_initFile_secondNameProject
  have hsecond : s.tree.isFile (s.directory.join (Path.join ⟨"."⟩ ⟨".layerguard.toml"⟩)) = true :=
    FileTree.isFile_of_read hread
  have hfile : settingsFile? s none ⟨"."⟩ = some (Path.join ⟨"."⟩ ⟨".layerguard.toml"⟩) := by
    simp only [settingsFile?, List.cons_append, List.find?_cons, hfirst, hsecond]
    rfl
  exact .ofFile hfile hread (Text.decodeUtf8_encodeUtf8 _) (by decide +kernel) (by decide) (by decide)

/-- With these settings an analysis cannot start. -/
theorem isDirectory_lib_secondNameProject (o : CheckOptions) (h : o.project = ⟨"."⟩) :
    secondNameProject.tree.isDirectory (analysisOf secondNameProject o secondNameConfig).root =
      false := by
  have hroot : (analysisOf secondNameProject o secondNameConfig).root = ⟨"/work/lib"⟩ := by
    rw [root_analysisOf, h]
    decide
  have hmissing : secondNameProject.tree.resolve ⟨"/work/lib"⟩ = .error .notFound := by
    have hpieces : FileTree.pieces ⟨"/work/lib"⟩ = ["", "work", "lib"] := by decide
    rw [FileTree.resolve_eq_error_iff (by decide), hpieces]
    simp [FileTree.follow, FileTree.at?, FileTree.top, Entry.child?, secondNameProject,
      List.lookup_cons]
  rw [hroot, FileTree.isDirectory, FileTree.find, hmissing]
  rfl

/-- With the defaults it can. -/
theorem isDirectory_src_secondNameProject (o : CheckOptions) (h : o.project = ⟨"."⟩) :
    secondNameProject.tree.isDirectory (analysisOf secondNameProject o .default).root = true := by
  have hroot : (analysisOf secondNameProject o .default).root = ⟨"/work/src"⟩ := by
    rw [root_analysisOf, h]
    decide
  rw [hroot]
  exact FileTree.isDirectory_iff.mpr ⟨_, FileTree.find_of_at? ["work", "src"] (by decide) (by decide)
    rfl (fun _ => Entry.noConfusion) (by decide)⟩

/-- A check of the project cannot start, for its source root is not there. After the project is
initialised its settings are not in force any more, and a check starts from the default root. -/
theorem init_puts_defaults_in_force_second :
    let s := secondNameProject
    let after : Surroundings := { s with tree := (runWords s ["init"]).treeAfter s }
    s.tree.wellNamed = true ∧ (runWords s ["init"]).exitCode = 0 ∧
      InForce s none ⟨"."⟩ secondNameConfig ∧ InForce after none ⟨"."⟩ .default ∧
      (runWords s ["check"]).exitCode = 2 ∧ (runWords after ["check"]).exitCode ≠ 2 := by
  intro s after
  let o : CheckOptions := ⟨⟨"."⟩, false, none, false⟩
  have hs : s.tree.wellNamed = true := by decide
  have hstart : Request.ofWords ["init"] = some (.run false none (.init false)) := by decide
  have hasks : Asks ["check"] false none o := by decide
  obtain ⟨hinit, hafter⟩ :=
    init_puts_defaults_in_force s hs (by simp [s, secondNameProject]) hstart hasks rfl
  obtain ⟨hexit, hdefaults⟩ : (runWords s ["init"]).exitCode = 0 ∧ InForce after none ⟨"."⟩ .default := by
    rcases hinit with ⟨hholds | ⟨fault, hfails⟩, -, -⟩ | hmade
    · exact absurd (holds_initFile_secondNameProject.symm.trans hholds) (by decide)
    · obtain ⟨more, hmore⟩ := exists_write_secondNameProject (Text.encodeUtf8 template)
      exact absurd (hfails.symm.trans hmore) (by simp)
    · exact hmade
  have hbystander (place : List String)
      (h : s.tree.placeFor FileTree.maxLinks (initFile s) = .ok place) :
      Analysis.IsBystander place := by
    obtain rfl := Except.ok.inj (placeFor_initFile_secondNameProject.symm.trans h)
    rintro name ⟨⟩
    decide
  have hbefore : (runWords s ["check"]).exitCode = 2 := by
    obtain ⟨fault, hfault⟩ :=
      Analysis.exists_run_eq_error (isDirectory_lib_secondNameProject o rfl)
    rw [runWords_of_asks hasks, (runCheck_of_inForce inForce_secondNameProject false).1]
    exact (runAnalysis_of_error hfault false).1
  have hthen : (runWords after ["check"]).exitCode ≠ 2 := by
    have hstarts := isDirectory_src_secondNameProject o rfl
    rw [((hafter hbystander).1 hexit).1,
      (runAnalysis_of_ok (Analysis.run_of_isDirectory hstarts) false).1]
    split <;> decide
  exact ⟨hs, hexit, inForce_secondNameProject, hdefaults, hbefore, hthen⟩

end Command

end LayerAudit
