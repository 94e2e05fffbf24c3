import LayerAudit.Store

/-!
# Reports as text

The report for readers: a heading, a section for each kind of violation that has any, and a summary.
Findings of the lightest kind are shown on demand only, and otherwise their number is. Colour is
laid over the headers of sections and over the summary.
-/

namespace LayerAudit.Report

/-- How a report is shown. -/
structure TextOptions where
  /-- Shows the lightest findings too. -/
  detailed : Bool
  color : Bool
  deriving DecidableEq, Repr, Inhabited

/-- A colour for a terminal. -/
inductive Color where
  | red
  | yellow
  | blue
  | green
  deriving DecidableEq, Repr

/-- What switches a colour on. -/
def Color.code : Color → String
  | .red => "\x1b[31m"
  | .yellow => "\x1b[33m"
  | .blue => "\x1b[34m"
  | .green => "\x1b[32m"

/-- What switches colours off. -/
def colorReset : String := "\x1b[0m"

/-- Lays a colour over a text if colours are asked for. -/
def paint (options : TextOptions) (color : Color) (text : String) : String :=
  if options.color then color.code ++ text ++ colorReset else text

/-- The lines of a section: a header with the number of entries, the entries, and an empty line. A
section without entries is left out. -/
def sectionLines (options : TextOptions) (title : String) (color : Color)
    (entries : List Violation) : List String :=
  if entries.isEmpty then []
  else
    [paint options color (title ++ " (" ++ toString entries.length ++ "):")] ++
      entries.map (fun v => "  " ++ v.display) ++ [""]

/-- The number of entries that are shown. -/
def shownCount (options : TextOptions) (r : Report) : Nat :=
  r.errors.length + r.warnings.length + if options.detailed then r.info.length else 0

/-- The summary of a report. -/
def summary (r : Report) : String :=
  "Summary: " ++ toString r.errors.length ++ " error(s), " ++ toString r.warnings.length ++
    " warning(s), " ++ toString r.info.length ++ " info(s)"

/-- The colour of the summary. -/
def summaryColor (r : Report) : Color :=
  if r.hasErrors then .red else if r.warnings.isEmpty then .green else .yellow

/-- The parts of the text, in the order in which they are written. A part may hold line breaks that
come with file names and messages. -/
def textLines (options : TextOptions) (r : Report) : List String :=
  ["Architecture analysis: " ++ toString r.stats.filesScanned ++ " file(s) scanned", ""] ++
    sectionLines options "Errors" .red r.errors ++
    sectionLines options "Warnings" .yellow r.warnings ++
    (if options.detailed then sectionLines options "Info" .blue r.info else []) ++
    (if r.shownCount options = 0 then ["No architecture violations found.", ""] else []) ++
    (if !options.detailed && !r.info.isEmpty then
      [toString r.info.length ++ " info message(s) hidden, use --detailed to show them."]
    else []) ++
    [paint options r.summaryColor r.summary]

/-- The report as text. -/
def renderText (options : TextOptions) (r : Report) : String :=
  String.join ((r.textLines options).map (· ++ "\n"))

end LayerAudit.Report
