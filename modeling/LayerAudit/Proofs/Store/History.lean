import LayerAudit.Proofs.Store.Recording
import Mathlib.Data.List.Induction

/-!
# What a store tells of the calls that it got

A store gets findings, with a severity or at that of their code, and the number of files, in any order and
as often as one likes. Main statement: at every moment each bucket holds the findings of its severity, in
the order of the calls and with none left out, the counter of violations is the number of those calls and
of all that the buckets hold, and the counter of files is the number that was set last.

One call is looked at first. What a run of calls leaves behind follows by induction on the calls, from any
store.
-/

namespace LayerAudit

/-- A call that a store gets. -/
inductive Store.Call where
  /-- A finding, at the severity of its code. -/
  | record (f : Finding)
  /-- A finding, at a severity of its own. -/
  | add (severity : Severity) (f : Finding)
  /-- The number of files. -/
  | setFilesScanned (count : Nat)
  deriving DecidableEq, Repr

namespace Store

namespace Call

/-- The severity at which a call states a finding; none if it states none. -/
def severity? : Call → Option Severity
  | record f => some f.code.severity
  | add severity _ => some severity
  | setFilesScanned _ => none

/-- The finding that a call states, if it states one. -/
def finding? : Call → Option Finding
  | record f | add _ f => some f
  | setFilesScanned _ => none

/-- The number of files that a call sets, if it sets it. -/
def count? : Call → Option Nat
  | record _ | add _ _ => none
  | setFilesScanned count => some count

/-- Whether a call states a finding. -/
def adds (c : Call) : Bool := c.severity?.isSome

end Call

/-- The violations of one severity that calls leave in a store with a given root: one for each call of
that severity, in the order of the calls. -/
def entries (root : Path) (severity : Severity) (calls : List Call) : List Violation :=
  (calls.filter fun c => c.severity? = some severity).filterMap fun c =>
    c.finding?.map fun f => ⟨severity, f.file.relativeTo root, f.line, f.code, f.message⟩

/-- The number of files that calls set last; zero if none of them sets it. -/
def lastCount (calls : List Call) : Nat := (calls.filterMap Call.count?).getLast?.getD 0

/-- A store after a call. -/
def apply (s : Store) : Call → Store
  | .record f => s.record f
  | .add severity f => s.add severity f
  | .setFilesScanned count => s.setFilesScanned count

/-- A store after some calls. -/
def after (s : Store) (calls : List Call) : Store := calls.foldl apply s

/-- The entries of calls are those of the first part and then those of the second. -/
theorem entries_append (root : Path) (severity : Severity) (before later : List Call) :
    entries root severity (before ++ later) =
      entries root severity before ++ entries root severity later := by
  rw [entries, List.filter_append, List.filterMap_append, entries, entries]

/-- The last call is made after all others. -/
theorem after_concat (s : Store) (calls : List Call) (c : Call) :
    s.after (calls ++ [c]) = (s.after calls).apply c :=
  List.foldl_append

/-- No call changes the root. -/
theorem root_apply (s : Store) (c : Call) : (s.apply c).root = s.root := by cases c <;> rfl

/-- A call adds its violation at the end of the bucket of its severity. -/
theorem bucket_apply (s : Store) (c : Call) (severity : Severity) :
    (s.apply c).report.bucket severity =
      s.report.bucket severity ++ entries s.root severity [c] := by
  cases c with
  | record f =>
    rw [apply, record, bucket_add]
    by_cases h : f.code.severity = severity <;>
      simp [entries, Call.severity?, Call.finding?, violation, h]
  | add own f =>
    rw [apply, bucket_add]
    by_cases h : own = severity <;> simp [entries, Call.severity?, Call.finding?, violation, h]
  | setFilesScanned count => cases severity <;> exact (List.append_nil _).symm

/-- A call that states a finding is counted, and leaves the number of files alone. -/
theorem stats_apply (s : Store) (c : Call) :
    (s.apply c).report.stats =
      ⟨c.count?.getD s.report.stats.filesScanned,
        s.report.stats.totalViolations + [c].countP Call.adds⟩ := by
  cases c with
  | record f => exact s.stats_add f.code.severity f
  | add severity f => exact s.stats_add severity f
  | setFilesScanned count => rfl

/-- No calls change the root. -/
theorem root_after (s : Store) (calls : List Call) : (s.after calls).root = s.root := by
  induction calls using List.reverseRecOn with
  | nil => rfl
  | append_singleton calls c ih => rw [after_concat, root_apply, ih]

/-- A bucket gets the violations of its severity, in the order of the calls. -/
theorem bucket_after (s : Store) (calls : List Call) (severity : Severity) :
    (s.after calls).report.bucket severity =
      s.report.bucket severity ++ entries s.root severity calls := by
  induction calls using List.reverseRecOn with
  | nil => exact (List.append_nil _).symm
  | append_singleton calls c ih =>
    rw [after_concat, bucket_apply, ih, root_after, entries_append, List.append_assoc]

/-- The calls that state a finding are counted, and the number of files is the one that was set last. -/
theorem stats_after (s : Store) (calls : List Call) :
    (s.after calls).report.stats =
      ⟨(calls.filterMap Call.count?).getLast?.getD s.report.stats.filesScanned,
        s.report.stats.totalViolations + calls.countP Call.adds⟩ := by
  induction calls using List.reverseRecOn with
  | nil => rfl
  | append_singleton calls c ih =>
    have hlast : ((calls ++ [c]).filterMap Call.count?).getLast? =
        c.count?.or (calls.filterMap Call.count?).getLast? := by
      rw [List.filterMap_append, List.getLast?_append]
      cases c <;> rfl
    rw [after_concat, stats_apply, ih, List.countP_append, Nat.add_assoc, hlast]
    cases c.count? <;> rfl

/-- Each call that states a finding leaves one violation in one of the buckets. -/
theorem length_entries_add (root : Path) (calls : List Call) :
    (entries root .error calls).length + (entries root .warning calls).length +
      (entries root .info calls).length = calls.countP Call.adds := by
  induction calls using List.reverseRecOn with
  | nil => rfl
  | append_singleton calls c ih =>
    have hone : (entries root .error [c]).length + (entries root .warning [c]).length +
        (entries root .info [c]).length = [c].countP Call.adds := by
      cases c with
      | record f =>
        cases h : f.code.severity <;>
          simp [entries, Call.adds, Call.severity?, Call.finding?, h]
      | add severity f => cases severity <;> rfl
      | setFilesScanned count => rfl
    simp only [entries_append, List.length_append, List.countP_append]
    omega

/-- A store that was empty tells of the calls that it got, after each of them: a bucket holds the violations
of the calls of its severity and nothing else, the counter of violations is the number of calls that state a
finding and that of all violations in the three buckets, and the number of files is the one that was set
last, which no finding changes. The report that is handed over in the end holds just this. -/
theorem after_tells_calls (root : Path) (calls : List Call) :
    (∀ k, let s := (empty root).after (calls.take k)
      (∀ severity, s.report.bucket severity = entries root severity (calls.take k)) ∧
      s.report.stats.totalViolations = (calls.take k).countP Call.adds ∧
      s.report.stats.totalViolations =
        s.report.errors.length + s.report.warnings.length + s.report.info.length ∧
      s.report.stats.filesScanned = lastCount (calls.take k) ∧
      ∀ f, (s.record f).report.stats.filesScanned = s.report.stats.filesScanned ∧
        ∀ severity, (s.add severity f).report.stats.filesScanned = s.report.stats.filesScanned) ∧
    ((empty root).after calls).report =
      { errors := entries root .error calls
        warnings := entries root .warning calls
        info := entries root .info calls
        stats := ⟨lastCount calls, calls.countP Call.adds⟩ } := by
  have hbucket (calls : List Call) (severity : Severity) :
      ((empty root).after calls).report.bucket severity = entries root severity calls := by
    rw [bucket_after]
    cases severity <;> rfl
  have hstats (calls : List Call) :
      ((empty root).after calls).report.stats = ⟨lastCount calls, calls.countP Call.adds⟩ := by
    rw [stats_after]
    exact congrArg (Stats.mk _) (Nat.zero_add _)
  refine ⟨fun k => ?_, Report.ext_bucket (fun severity => ?_) (hstats calls)⟩
  · intro s
    refine ⟨hbucket _, by rw [hstats], ?_, by rw [hstats], fun f => ⟨?_, fun severity => ?_⟩⟩
    · rw [hstats, ← length_entries_add root, ← hbucket, ← hbucket, ← hbucket]
      rfl
    · rw [record, stats_add]
    · rw [stats_add]
  · rw [hbucket]
    cases severity <;> rfl

end Store

end LayerAudit
