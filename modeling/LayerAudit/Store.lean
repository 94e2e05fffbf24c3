import LayerAudit.Path.Basic
import LayerAudit.Violation

/-!
# The violations of a run

A store collects violations by severity and counts them. It knows the source root, so that files are
recorded as paths below it. A report is what a store holds in the end.
-/

namespace LayerAudit

/-- The counters of a run. -/
structure Stats where
  filesScanned : Nat
  totalViolations : Nat
  deriving DecidableEq, Repr, Inhabited

/-- The finished result of a run. -/
structure Report where
  errors : List Violation
  warnings : List Violation
  info : List Violation
  stats : Stats
  deriving DecidableEq, Repr, Inhabited

namespace Report

/-- A run fails if it found any error. -/
def hasErrors (r : Report) : Bool := !r.errors.isEmpty

/-- All violations, the heaviest first. -/
def violations (r : Report) : List Violation := r.errors ++ r.warnings ++ r.info

/-- The violations of one severity. -/
def bucket (r : Report) : Severity → List Violation
  | .error => r.errors
  | .warning => r.warnings
  | .info => r.info

end Report

/-- The violations recorded so far. -/
structure Store where
  root : Path
  report : Report
  deriving DecidableEq, Repr, Inhabited

/-- A finding as a check states it. -/
structure Finding where
  file : Path
  line : Option Nat
  code : Code
  message : String
  deriving DecidableEq, Repr, Inhabited

namespace Store

/-- A store without violations. -/
def empty (root : Path) : Store := ⟨root, ⟨[], [], [], ⟨0, 0⟩⟩⟩

/-- The violation that a finding is recorded as. -/
def violation (s : Store) (severity : Severity) (f : Finding) : Violation :=
  ⟨severity, f.file.relativeTo s.root, f.line, f.code, f.message⟩

/-- Records a finding at a given severity. -/
def add (s : Store) (severity : Severity) (f : Finding) : Store :=
  let v := s.violation severity f
  let r := s.report
  let stats := { r.stats with totalViolations := r.stats.totalViolations + 1 }
  { s with
    report :=
      match severity with
      | .error => { r with errors := r.errors ++ [v], stats }
      | .warning => { r with warnings := r.warnings ++ [v], stats }
      | .info => { r with info := r.info ++ [v], stats } }

/-- Records a finding at the severity of its code. -/
def record (s : Store) (f : Finding) : Store := s.add f.code.severity f

/-- Records findings one after the other. -/
def recordAll (s : Store) (findings : List Finding) : Store := findings.foldl record s

/-- Sets the number of files that the run collected. -/
def setFilesScanned (s : Store) (count : Nat) : Store :=
  { s with report := { s.report with stats := { s.report.stats with filesScanned := count } } }

/-- Recording adds a violation at the end of its bucket and nowhere else. -/
theorem bucket_add (s : Store) (severity bucket : Severity) (f : Finding) :
    (s.add severity f).report.bucket bucket =
      s.report.bucket bucket ++ if severity = bucket then [s.violation severity f] else [] := by
  cases severity <;> cases bucket <;> simp [add, Report.bucket]

end Store

end LayerAudit
