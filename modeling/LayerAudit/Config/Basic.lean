import LayerAudit.Path.Basic
import LayerAudit.Report.Format
import LayerAudit.Rule.Basic

/-!
# Configuration

What a project may set: where its sources lie, which directories to leave out, how the report is
shown, and which rules are switched off. Whatever is not set has its default.
-/

namespace LayerAudit

/-- Settings of the analysis. -/
structure AnalyzerConfig where
  /-- The source root, as seen from the project's directory. -/
  root : Path
  /-- Names of further directories to skip. -/
  exclude : List String
  deriving DecidableEq, Repr, Inhabited

/-- Settings of the report. -/
structure OutputConfig where
  /-- Shows the lightest findings too. -/
  detailed : Bool
  format : Report.Format
  deriving DecidableEq, Repr, Inhabited

/-- Settings of a rule. -/
structure RuleConfig where
  enabled : Option Bool
  deriving DecidableEq, Repr, Inhabited

/-- The settings of a project. -/
structure Config where
  analyzer : AnalyzerConfig
  output : OutputConfig
  /-- By the names of rules, sorted. -/
  rules : List (String × RuleConfig)
  deriving DecidableEq, Repr, Inhabited

/-- The root of sources that lie in a directory of their own. -/
def AnalyzerConfig.defaultRoot : Path := ⟨"src"⟩

/-- Sources lie in a directory of their own, and none of them are left out. -/
def AnalyzerConfig.default : AnalyzerConfig := ⟨defaultRoot, []⟩

/-- The report is brief and for readers. -/
def OutputConfig.default : OutputConfig := ⟨false, .console⟩

/-- A rule is left as it is. -/
def RuleConfig.default : RuleConfig := ⟨none⟩

/-- Why settings do not make sense. -/
inductive ConfigProblem where
  | unknownRule (name : String) (known : List String)
  | emptyRoot
  deriving DecidableEq, Repr

/-- The wording of a problem. -/
def ConfigProblem.message : ConfigProblem → String
  | .unknownRule name known =>
    "rules." ++ name ++ ": unknown rule (expected one of: " ++ String.intercalate ", " known ++ ")"
  | .emptyRoot => "analyzer.root must not be empty"

namespace Config

/-- The settings of a project that sets nothing. -/
def default : Config := ⟨.default, .default, []⟩

/-- Whether the rule of a name runs: it does unless it is switched off. -/
def isRuleEnabled (c : Config) (name : String) : Bool :=
  match c.rules.lookup name with
  | some rule => rule.enabled.getD true
  | none => true

/-- The first problem of settings, given the names of rules that there are. -/
def problem? (c : Config) (known : List String) : Option ConfigProblem :=
  match c.rules.find? fun rule => !known.contains rule.1 with
  | some rule => some (.unknownRule rule.1 known)
  | none => if c.analyzer.root.text.isEmpty then some .emptyRoot else none

end Config

end LayerAudit
