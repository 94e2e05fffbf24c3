import LayerAudit.Json.Decode
import LayerAudit.Json.Write
import LayerAudit.Report.Text

/-!
# Reports as JSON, and the choice of a format

The report for programs holds all there is to know, with the fields of each record in a fixed order.
What is written can be read back.
-/

namespace LayerAudit

/-- Reads a severity. -/
def Severity.ofJson : Json → Json.Decoded Severity := Json.decodeChoice Severity.all Severity.name

/-- Reads a code. -/
def Code.ofJson : Json → Json.Decoded Code := Json.decodeChoice Code.all Code.name

/-- A count as a JSON value. -/
def Json.ofNat (n : Nat) : Json := .integer n

namespace Violation

/-- The line of a violation as a JSON value. -/
def lineJson : Option Nat → Json
  | some line => Json.ofNat line
  | none => .null

/-- A violation as a JSON value. -/
def toJson (v : Violation) : Json :=
  .object
    [("severity", .string v.severity.name), ("file", .string v.file), ("line", lineJson v.line),
      ("code", .string v.code.name), ("message", .string v.message)]

/-- What is wrong with a field of a violation. -/
def judgeField (name : String) (value : Json) : Json.Decoded Unit :=
  match name with
  | "severity" => Json.judge Severity.ofJson value
  | "file" | "message" => Json.judge Json.decodeText value
  | "line" => Json.judge (Json.decodeOptional Json.decodeCount) value
  | "code" => Json.judge Code.ofJson value
  | _ => .ok ()

/-- Reads a violation from its fields. An object without a line has none. -/
def ofFields (fields : Json.Fields) : Json.Decoded Violation := do
  let severity ← fields.required "severity" 0 Severity.ofJson
  let file ← fields.required "file" 1 Json.decodeText
  let line ←
    match fields.field? "line" 2, fields.missing "line" 2 with
    | some value, _ => Json.decodeOptional Json.decodeCount value
    | none, .missingField _ => pure none
    | none, mismatch => throw mismatch
  let code ← fields.required "code" 3 Code.ofJson
  let message ← fields.required "message" 4 Json.decodeText
  return ⟨severity, file, line, code, message⟩

/-- Reads a violation. -/
def ofJson : Json → Json.Decoded Violation := Json.decodeRecord "Violation" 5 judgeField ofFields

end Violation

namespace Stats

/-- Counters as a JSON value. -/
def toJson (s : Stats) : Json :=
  .object
    [("files_scanned", Json.ofNat s.filesScanned),
      ("total_violations", Json.ofNat s.totalViolations)]

/-- What is wrong with a field of counters. -/
def judgeField (name : String) (value : Json) : Json.Decoded Unit :=
  match name with
  | "files_scanned" | "total_violations" => Json.judge Json.decodeCount value
  | _ => .ok ()

/-- Reads counters from their fields. -/
def ofFields (fields : Json.Fields) : Json.Decoded Stats := do
  let filesScanned ← fields.required "files_scanned" 0 Json.decodeCount
  let totalViolations ← fields.required "total_violations" 1 Json.decodeCount
  return ⟨filesScanned, totalViolations⟩

/-- Reads counters. -/
def ofJson : Json → Json.Decoded Stats := Json.decodeRecord "Stats" 2 judgeField ofFields

end Stats

namespace Report

/-- A report as a JSON value. -/
def toJson (r : Report) : Json :=
  .object
    [("errors", .array (r.errors.map Violation.toJson)),
      ("warnings", .array (r.warnings.map Violation.toJson)),
      ("info", .array (r.info.map Violation.toJson)), ("stats", r.stats.toJson)]

/-- What is wrong with a field of a report. -/
def judgeField (name : String) (value : Json) : Json.Decoded Unit :=
  match name with
  | "errors" | "warnings" | "info" => Json.judge (Json.decodeList Violation.ofJson) value
  | "stats" => Json.judge Stats.ofJson value
  | _ => .ok ()

/-- Reads a report from its fields. -/
def ofFields (fields : Json.Fields) : Json.Decoded Report := do
  let errors ← fields.required "errors" 0 (Json.decodeList Violation.ofJson)
  let warnings ← fields.required "warnings" 1 (Json.decodeList Violation.ofJson)
  let info ← fields.required "info" 2 (Json.decodeList Violation.ofJson)
  let stats ← fields.required "stats" 3 Stats.ofJson
  return ⟨errors, warnings, info, stats⟩

/-- Reads a report. -/
def ofJson : Json → Json.Decoded Report := Json.decodeRecord "Report" 4 judgeField ofFields

/-- The report as JSON, with a line break at the end. -/
def renderJson (r : Report) : String := r.toJson.pretty ++ "\n"

/-- The formats of a report. -/
inductive Format where
  /-- Text for readers. -/
  | console
  /-- JSON for programs. -/
  | json
  deriving DecidableEq, Repr, Inhabited

namespace Format

/-- The formats. -/
def all : List Format := [console, json]

/-- The name of a format. -/
def name : Format → String
  | console => "console"
  | json => "json"

/-- A text with the capital letters of the plain alphabet made small. -/
def lowercased (s : String) : String := String.ofList (s.toList.map Char.toLower)

/-- The format of a name, in small or capital letters; text for readers has two names. -/
def ofName? (s : String) : Option Format :=
  match lowercased s with
  | "console" | "text" => some console
  | "json" => some json
  | _ => none

/-- The wording for a name that is none. -/
def unknownMessage (s : String) : String := "unknown report format '" ++ lowercased s ++ "'"

end Format

/-- The report in a format. -/
def render (format : Format) (options : TextOptions) (r : Report) : String :=
  match format with
  | .console => r.renderText options
  | .json => r.renderJson

end Report

end LayerAudit
