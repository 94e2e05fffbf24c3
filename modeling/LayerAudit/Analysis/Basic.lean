import LayerAudit.Collector
import LayerAudit.Config.Basic

/-!
# Analysis

A run collects the source files below the root, parses each of them once, lets the enabled rules
look at all that was parsed, and reports what was recorded on the way: first the files that could
not be parsed, then the findings, rule by rule. A run does not depend on earlier runs.
-/

namespace LayerAudit

/-- How a run reports. -/
structure AnalysisOptions where
  /-- Shows the lightest findings too. -/
  detailed : Bool
  format : Report.Format
  /-- Asks for mending, which a run does not do. -/
  fix : Bool
  color : Bool
  deriving DecidableEq, Repr, Inhabited

/-- Why a run does not start. -/
inductive AnalysisFault where
  | rootMissing (path : Path)
  /-- The root is there and is no directory. -/
  | rootNotDirectory (path : Path)
  deriving DecidableEq, Repr

namespace AnalysisFault

/-- The wording of a fault. -/
def message : AnalysisFault → String
  | rootMissing path => "source root does not exist: " ++ path.text
  | rootNotDirectory path => "source root is not a directory: " ++ path.text

/-- The name by which a fault can be looked up. -/
def code : AnalysisFault → String
  | rootMissing _ | rootNotDirectory _ => "layerguard::source_root"

/-- What to do about a fault, if that is known. -/
def help? : AnalysisFault → Option String
  | rootMissing _ =>
    some "pass the project directory, or set `analyzer.root` in layerguard.toml"
  | rootNotDirectory _ => none

end AnalysisFault

/-- A run that is about to start. -/
structure Analysis where
  /-- The source root, from the top and with dots resolved. -/
  root : Path
  options : AnalysisOptions
  config : Config
  deriving DecidableEq, Repr, Inhabited

/-- What a run works out. -/
structure Analysis.Result where
  /-- The files that were collected. -/
  files : List Path
  /-- The state after all of them were parsed. -/
  parsed : Session
  report : Report
  deriving DecidableEq, Repr, Inhabited

namespace Analysis

/-- The ends of the names of source files. -/
def extensions : List String := [".ts"]

/-- The name of the language that sources are written in. -/
def language : String := "typescript"

/-- A run for a source root, which is seen from a given directory. -/
def ofRoot (directory root : Path) (options : AnalysisOptions) (config : Config) : Analysis :=
  ⟨(directory.join root).normalize, options, config⟩

/-- What the run collects. -/
def collector (a : Analysis) : Collector :=
  (Collector.ofExtensions extensions).skipping a.config.analyzer.exclude

/-- How the run assigns layers. -/
def classifier (a : Analysis) : Classifier := .ofRoot a.root

/-- Whether the run lets a rule look at the files. -/
def enables (a : Analysis) (r : Rule) : Bool := a.config.isRuleEnabled r.name

/-- The rules that the run goes by, in their order. -/
def rules (a : Analysis) : List Rule := Rule.all.filter a.enables

/-- The state after given files were parsed. -/
def parse (a : Analysis) (load : Path → Except LoadFault SourceFile) (files : List Path) :
    Session :=
  (Session.start ((Store.empty a.root).setFilesScanned files.length)).parseAll load files

/-- The violations recorded after rules looked at what was parsed. -/
def check (a : Analysis) (parsed : Session) (rules : List Rule) : Store :=
  rules.foldl (fun store r => r.check a.classifier parsed.cache store) parsed.store

/-- Why the run does not start, if it does not. -/
def fault? (a : Analysis) (tree : FileTree) : Option AnalysisFault :=
  if !tree.holds a.root then some (.rootMissing a.root)
  else if !tree.isDirectory a.root then some (.rootNotDirectory a.root)
  else none

/-- What the run works out in a file system. -/
def result (a : Analysis) (extract : Extractor) (tree : FileTree) : Result :=
  let files := a.collector.collect tree a.root
  let parsed := a.parse (SourceFile.load extract tree) files
  { files, parsed, report := (a.check parsed a.rules).report }

/-- Runs the analysis. -/
def run (a : Analysis) (extract : Extractor) (tree : FileTree) : Except AnalysisFault Result :=
  match a.fault? tree with
  | some fault => .error fault
  | none => .ok (a.result extract tree)

/-- How the text of a report is shown. -/
def textOptions (a : Analysis) : Report.TextOptions := ⟨a.options.detailed, a.options.color⟩

/-- The report as it was asked for. -/
def render (a : Analysis) (r : Report) : String := r.render a.options.format a.textOptions

end Analysis

end LayerAudit
