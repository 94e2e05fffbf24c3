import LayerAudit.Path.Basic
import LayerAudit.Report.Format

/-!
# Commands

What the program can be asked for.
-/

namespace LayerAudit

/-- What a check is asked for. Whatever is not asked for is left to the configuration. -/
structure CheckOptions where
  /-- The project's directory. -/
  project : Path
  detailed : Bool
  format : Option Report.Format
  fix : Bool
  deriving DecidableEq, Repr, Inhabited

/-- What the program is to do. -/
inductive Command where
  /-- Checks a project. -/
  | check (options : CheckOptions)
  /-- Lists the rules. -/
  | listRules
  /-- Writes a configuration to start from, in place of an older one if forced. -/
  | init (force : Bool)
  deriving DecidableEq, Repr, Inhabited

/-- What the program is asked for. -/
inductive Request where
  /-- A command, with a configuration that is named outright, and with more or less of the log. -/
  | run (verbose : Bool) (config : Option Path) (command : Command)
  | help
  | version
  deriving DecidableEq, Repr, Inhabited

end LayerAudit
