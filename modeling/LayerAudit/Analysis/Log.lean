import LayerAudit.Analysis.Basic

/-!
# The log of a run

What a run tells about its steps, for those who want to follow it. The log is read off what the run
worked out; it adds nothing to the report.
-/

namespace LayerAudit

/-- How important an event is. -/
inductive LogLevel where
  | trace
  | debug
  | info
  | warn
  deriving DecidableEq, Repr, Inhabited

namespace LogLevel

/-- The name of a level. -/
def name : LogLevel → String
  | trace => "TRACE"
  | debug => "DEBUG"
  | info => "INFO"
  | warn => "WARN"

/-- The place of a level in their order. -/
def rank : LogLevel → Nat
  | trace => 0
  | debug => 1
  | info => 2
  | warn => 3

end LogLevel

/-- Something that a run tells. -/
structure LogEvent where
  level : LogLevel
  message : String
  deriving DecidableEq, Repr, Inhabited

namespace LogEvent

/-- An event on one line of text. -/
def display (e : LogEvent) : String := e.level.name ++ " " ++ e.message

/-- The events that are at least as important as a level. -/
def atLeast (level : LogLevel) (events : List LogEvent) : List LogEvent :=
  events.filter fun e => decide (level.rank ≤ e.level.rank)

/-- The event that a violation is recorded. -/
def recorded (v : Violation) : LogEvent := ⟨.debug, v.severity.name ++ ": " ++ v.display⟩

/-- The event that a file was parsed. -/
def parsed (f : SourceFile) : LogEvent :=
  ⟨.debug, "Parsed " ++ f.path.text ++ ": " ++
    toString f.facts.imports.length ++ " import(s), " ++
    toString f.facts.exports.length ++ " export(s), " ++
    toString f.facts.classes.length ++ " class(es), " ++
    toString f.facts.interfaces.length ++ " interface(s)"⟩

end LogEvent

namespace Analysis

/-- What is told about findings as they are recorded. -/
def findingEvents (a : Analysis) (findings : List Finding) : List LogEvent :=
  findings.map fun f => .recorded ((Store.empty a.root).violation f.code.severity f)

/-- What is told about a file that is parsed. -/
def fileEvents (a : Analysis) (load : Path → Except LoadFault SourceFile) (cache : Cache)
    (path : Path) : List LogEvent :=
  ⟨.debug, "Parsing: " ++ path.text⟩ ::
    match cache.get? path with
    | some file => [.parsed file]
    | none =>
      match load path with
      | .ok _ => []
      | .error fault =>
        ⟨.warn, "Failed to parse " ++ path.text ++ ": " ++ fault.message⟩ ::
          a.findingEvents ((Attempt.failed fault).findings path)

/-- What is told about a rule. -/
def ruleEvents (a : Analysis) (cache : Cache) (r : Rule) : List LogEvent :=
  if a.enables r then
    ⟨.debug, "Running rule: " ++ r.name⟩ :: a.findingEvents (r.findings a.classifier cache.files)
  else [⟨.debug, "Skipping disabled rule: " ++ r.name⟩]

/-- What is told before files are collected. -/
def startEvents (a : Analysis) : List LogEvent :=
  ⟨.info, "Starting analysis at " ++ a.root.text⟩ ::
    if a.options.fix then [⟨.warn, "Automatic fixing is not supported; reporting only"⟩] else []

/-- What is told about the files that were met. -/
def collectEvents (a : Analysis) (tree : FileTree) (files : List Path) : List LogEvent :=
  (a.collector.passedBy tree a.root).map (fun p => ⟨.trace, "Ignoring " ++ p.text⟩) ++
    [⟨.info, "Found " ++ toString files.length ++ " " ++ language ++ " file(s) to analyze"⟩]

/-- What is told at the end. -/
def endEvent (r : Report) : LogEvent :=
  ⟨.info, "Analysis complete: " ++ toString r.errors.length ++ " error(s), " ++
    toString r.warnings.length ++ " warning(s), " ++ toString r.info.length ++ " info(s) in " ++
    toString r.stats.filesScanned ++ " file(s)"⟩

/-- What a run that came to a result told. -/
def log (a : Analysis) (extract : Extractor) (tree : FileTree) (r : Result) : List LogEvent :=
  a.startEvents ++ a.collectEvents tree r.files ++
    r.files.flatMap (a.fileEvents (SourceFile.load extract tree) r.parsed.cache) ++
    Rule.all.flatMap (a.ruleEvents r.parsed.cache) ++ [endEvent r.report]

end Analysis

end LayerAudit
