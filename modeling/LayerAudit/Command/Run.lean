import LayerAudit.Analysis.Log
import LayerAudit.Command.Arguments
import LayerAudit.Config.Source
import LayerAudit.Facts.TypeScript

/-!
# Running commands

What a request comes to in given surroundings: the text that it writes for the user, the exit code,
and the file that it makes, if any.
-/

namespace LayerAudit

/-- Where a request is run. -/
structure Surroundings where
  tree : FileTree
  /-- The directory that relative paths start at. -/
  directory : Path
  /-- The directory of the configuration for all projects. -/
  globalDirectory : Option Path
  /-- Whether output goes to a terminal. -/
  terminal : Bool
  deriving Repr, Inhabited

/-- What a request comes to. -/
structure Outcome where
  exitCode : Nat
  output : String
  /-- What is said apart from the output, line by line. -/
  remarks : List String
  /-- A file to write. -/
  written : Option (Path × String)
  deriving DecidableEq, Repr, Inhabited

namespace Outcome

/-- Success. -/
def success (output : String) : Outcome := ⟨0, output, [], none⟩

/-- The exit code of a check that found errors, and of a command that failed. -/
def failureCode : Nat := 1

/-- The exit code of a request that is none, and of a check that could not start. -/
def fatalCode : Nat := 2

/-- Failure of a command. -/
def failure (message : String) : Outcome := ⟨failureCode, "", ["Error: " ++ message], none⟩

/-- The surroundings after a request was run. -/
def treeAfter (o : Outcome) (s : Surroundings) : FileTree :=
  match o.written with
  | some (path, text) =>
    (s.tree.write (s.directory.join path) (Text.encodeUtf8 text)).toOption.getD s.tree
  | none => s.tree

end Outcome

namespace Command

/-- The configuration that a project starts from. -/
def template : String :=
  "# layerguard configuration\n" ++
  "\n" ++
  "[analyzer]\n" ++
  "# Source root, relative to the project directory\n" ++
  "root = \"src\"\n" ++
  "\n" ++
  "# Extra directory names to skip (node_modules, dist, build, ... are always skipped)\n" ++
  "exclude = []\n" ++
  "\n" ++
  "[output]\n" ++
  "# Show info-level findings in text output\n" ++
  "detailed = false\n" ++
  "# \"console\" or \"json\"\n" ++
  "format = \"console\"\n" ++
  "\n" ++
  "# Every rule is enabled unless switched off here.\n" ++
  "# Run `layerguard list-rules` for the full list.\n" ++
  "\n" ++
  "# [rules.type-quality]\n" ++
  "# enabled = false\n"

/-- The file that a project's configuration is written to. -/
def configFile : Path := ⟨"layerguard.toml"⟩

/-- Writes a configuration to start from. -/
def runInit (s : Surroundings) (force : Bool) : Outcome :=
  let path := Path.join ⟨"."⟩ configFile
  let target := s.directory.join path
  if s.tree.holds target && !force then
    .failure
      ("Configuration file already exists at " ++ path.text ++ ". Use --force to overwrite.")
  else
    match s.tree.write target (Text.encodeUtf8 template) with
    | .error _ => .failure ("Failed to write " ++ path.text)
    | .ok _ =>
      { Outcome.success
          ("Created " ++ configFile.text ++ "\n" ++
            "\n" ++
            "Next steps:\n" ++
            "  1. Point analyzer.root at your TypeScript sources\n" ++
            "  2. Run: layerguard check\n") with
        written := some (path, template) }

/-- A text with blanks behind it, up to a width. -/
def padTo (width : Nat) (s : String) : String :=
  s ++ String.ofList (List.replicate (width - s.length) ' ')

/-- A row of the table of rules. -/
def ruleRow (name description codes : String) : String :=
  padTo 22 name ++ " " ++ padTo 48 description ++ " " ++ codes ++ "\n"

/-- The table of rules. -/
def ruleTable : String :=
  "Available rules:\n" ++
  "\n" ++
  ruleRow "Name" "Description" "Codes" ++
  String.ofList (List.replicate 100 '-') ++ "\n" ++
  String.join (Rule.all.map fun r =>
    ruleRow r.name r.description (String.intercalate ", " (r.codes.map Code.name))) ++
  "\n" ++
  "Disable a rule in layerguard.toml, e.g.:\n" ++
  "  [rules.type-quality]\n" ++
  "  enabled = false\n"

/-- The options of an analysis: what a check was asked for, and else what is configured. Only text
on a terminal has colours. -/
def analysisOptions (o : CheckOptions) (c : Config) (terminal : Bool) : AnalysisOptions :=
  let format := o.format.getD c.output.format
  { detailed := o.detailed || c.output.detailed
    format
    fix := o.fix
    color := terminal && format = .console }

/-- The lines of a log that are shown. -/
def shownLog (verbose : Bool) (events : List LogEvent) : List String :=
  (LogEvent.atLeast (if verbose then .debug else .warn) events).map LogEvent.display

/-- The source root of a project, as it is configured. -/
def sourceRoot (o : CheckOptions) (c : Config) : Path := o.project.join c.analyzer.root

/-- The analysis that a check runs. -/
def analysisOf (s : Surroundings) (o : CheckOptions) (c : Config) : Analysis :=
  .ofRoot s.directory (sourceRoot o c) (analysisOptions o c s.terminal) c

/-- Where the configuration of a check comes from. -/
def sourceOf (s : Surroundings) (named : Option Path) (o : CheckOptions) : ConfigSource :=
  .find s.tree s.directory o.project named s.globalDirectory

/-- The configuration of a source, or what to say if it is of no use. -/
def configOf (s : Surroundings) (source : ConfigSource) : Except String Config := do
  let c ← (source.load s.tree s.directory).mapError fun _ => "Failed to load " ++ source.display
  (c.validate Rule.names).mapError fun _ => "Config validation failed"
  return c

/-- Checks a project with a configuration. -/
def runAnalysis (s : Surroundings) (verbose : Bool) (o : CheckOptions) (c : Config) : Outcome :=
  let a := analysisOf s o c
  let before := shownLog verbose [⟨.info, "Checking " ++ (sourceRoot o c).text⟩]
  match a.run Facts.ofTypeScript s.tree with
  | .error fault =>
    { exitCode := Outcome.fatalCode
      output := ""
      remarks :=
        before ++ [fault.code, fault.message] ++ fault.help?.toList.map fun h => "help: " ++ h
      written := none }
  | .ok r =>
    { exitCode := if r.report.hasErrors then Outcome.failureCode else 0
      output := a.render r.report
      remarks := before ++ shownLog verbose (a.log Facts.ofTypeScript s.tree r)
      written := none }

/-- Checks a project. -/
def runCheck (s : Surroundings) (verbose : Bool) (named : Option Path) (o : CheckOptions) :
    Outcome :=
  let source := sourceOf s named o
  let loading := source.path?.toList.map fun _ => ⟨.debug, "Loading " ++ source.display⟩
  let before := shownLog verbose (⟨.info, "Using " ++ source.display⟩ :: loading)
  let outcome :=
    match configOf s source with
    | .error message => Outcome.failure message
    | .ok c => runAnalysis s verbose o c
  { outcome with remarks := before ++ outcome.remarks }

/-- Runs a command. -/
def run (s : Surroundings) (verbose : Bool) (named : Option Path) : Command → Outcome
  | check options => runCheck s verbose named options
  | listRules => .success ruleTable
  | init force => runInit s force

end Command

namespace Request

/-- The version of the program. -/
def versionText : String := "layerguard 0.3.0\n"

/-- How to ask for what. -/
def usage : String :=
  "Layered-architecture checker for TypeScript projects\n" ++
  "\n" ++
  "Usage: layerguard [OPTIONS] <COMMAND>\n" ++
  "\n" ++
  "Commands:\n" ++
  "  check       Analyze a project's source tree\n" ++
  "  list-rules  List available rules\n" ++
  "  init        Initialize configuration file\n" ++
  "\n" ++
  "Options:\n" ++
  "  -v, --verbose          Enable verbose output\n" ++
  "  -c, --config <CONFIG>  Path to configuration file\n" ++
  "  -h, --help             Print help\n" ++
  "  -V, --version          Print version\n"

/-- Answers a request. -/
def answer (s : Surroundings) : Request → Outcome
  | run verbose config command => command.run s verbose config
  | help => .success usage
  | version => .success versionText

end Request

/-- Runs the program on the words of a command line. -/
def runWords (s : Surroundings) (words : List String) : Outcome :=
  match Request.ofWords words with
  | some request => request.answer s
  | none => ⟨Outcome.fatalCode, "", [Request.usage], none⟩

end LayerAudit
