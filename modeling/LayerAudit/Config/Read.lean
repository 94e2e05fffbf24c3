import LayerAudit.Config.Basic
import LayerAudit.Named
import LayerAudit.Toml.Document
import LayerAudit.Toml.Record

/-!
# Configuration from text

Settings are written in TOML. Keys that mean nothing here are passed over, and what is left out has
its default: the record as a whole where there is no table for it, and each slot of it where there is.
-/

namespace LayerAudit

/-- Reads the root. -/
def AnalyzerConfig.decodeRoot (value : Toml) : Toml.Decoded Path :=
  Path.mk <$> Toml.decodeText "path string" value

/-- Reads the names of directories to skip. -/
def AnalyzerConfig.decodeExclude : Toml → Toml.Decoded (List String) :=
  Toml.decodeList (Toml.decodeText "a string")

/-- The settings of the analysis, key by key. -/
def AnalyzerConfig.record : Toml.Record AnalyzerConfig where
  kind := "AnalyzerConfig"
  slots :=
    [.mk "root" decodeRoot defaultRoot root fun c root => { c with root },
      .mk "exclude" decodeExclude [] exclude fun c exclude => { c with exclude }]

/-- Reads the settings of the analysis. -/
def AnalyzerConfig.ofToml : Toml → Toml.Decoded AnalyzerConfig := record.decode

/-- Reads the format. -/
def OutputConfig.decodeFormat : Toml → Toml.Decoded Report.Format :=
  Toml.decodeChoice Report.Format.all Report.Format.name

/-- The settings of the report, key by key. -/
def OutputConfig.record : Toml.Record OutputConfig where
  kind := "OutputConfig"
  slots :=
    [.mk "detailed" Toml.decodeBool false detailed fun c detailed => { c with detailed },
      .mk "format" decodeFormat .console format fun c format => { c with format }]

/-- Reads the settings of the report. -/
def OutputConfig.ofToml : Toml → Toml.Decoded OutputConfig := record.decode

/-- Reads the switch of a rule. -/
def RuleConfig.decodeEnabled (value : Toml) : Toml.Decoded (Option Bool) := some <$> Toml.decodeBool value

/-- The settings of a rule, key by key. -/
def RuleConfig.record : Toml.Record RuleConfig where
  kind := "RuleConfig"
  slots := [.mk "enabled" decodeEnabled none enabled fun _ enabled => ⟨enabled⟩]

/-- Reads the settings of a rule. -/
def RuleConfig.ofToml : Toml → Toml.Decoded RuleConfig := record.decode

namespace Config

/-- Reads the settings of the rules, in the order of their names. -/
def decodeRules (value : Toml) : Toml.Decoded (List (String × RuleConfig)) :=
  byName <$> Toml.decodeMap RuleConfig.ofToml value

/-- A configuration, key by key. -/
def record : Toml.Record Config where
  kind := "Config"
  slots :=
    [.mk "analyzer" AnalyzerConfig.ofToml .default analyzer fun c analyzer => { c with analyzer },
      .mk "output" OutputConfig.ofToml .default output fun c output => { c with output },
      .mk "rules" decodeRules [] rules fun c rules => { c with rules }]

/-- Reads a configuration. -/
def ofToml : Toml → Toml.Decoded Config := record.decode

end Config

/-- Why there is no configuration. -/
inductive ConfigFault where
  | unreadable (path : Path) (fault : PathFault)
  /-- The file does not hold text. -/
  | notText (path : Path)
  /-- The text is no TOML document. -/
  | malformed
  /-- The document holds values of the wrong shape. -/
  | misfit (text : String) (fault : Toml.Fault)
  | invalid (problem : ConfigProblem)
  deriving DecidableEq, Repr

/-- The wording of a fault. -/
def ConfigFault.message : ConfigFault → String
  | .unreadable path fault => "Failed to read config file " ++ path.text ++ ": " ++ fault.message
  | .notText path =>
    "Failed to read config file " ++ path.text ++ ": stream did not contain valid UTF-8"
  | .malformed => "Failed to parse config"
  | .misfit text fault => "Failed to parse config: " ++ fault.message text
  | .invalid problem => "Invalid config: " ++ problem.message

namespace Config

/-- Reads a configuration from text. -/
def parse (text : String) : Except ConfigFault Config :=
  match Toml.parse text with
  | none => .error .malformed
  | some document => (ofToml document).mapError (.misfit text)

/-- Makes sure that settings make sense, given the names of rules that there are. -/
def validate (c : Config) (known : List String) : Except ConfigFault Unit :=
  match c.problem? known with
  | some problem => .error (.invalid problem)
  | none => .ok ()

/-- Reads a configuration from a file; relative paths start at a given directory. -/
def ofFile (tree : FileTree) (directory path : Path) : Except ConfigFault Config :=
  match tree.read (directory.join path) with
  | .error fault => .error (.unreadable path fault)
  | .ok bytes =>
    match Text.decodeUtf8 bytes with
    | .error _ => .error (.notText path)
    | .ok text => parse text

end Config

end LayerAudit
