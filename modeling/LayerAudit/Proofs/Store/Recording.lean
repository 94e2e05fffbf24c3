import LayerAudit.Proofs.List.Parts
import LayerAudit.Store

/-!
# What a store holds after findings are recorded

Each bucket gets the findings of its severity, in the order in which they were stated, and the
counter of violations gets their number. The root, what was recorded before and the counter of files
are left alone.
-/

namespace LayerAudit

namespace Report

/-- Every violation stands in one of the buckets. -/
theorem mem_violations_iff {r : Report} {v : Violation} :
    v ∈ r.violations ↔ ∃ severity, v ∈ r.bucket severity := by
  constructor
  · intro h
    rcases List.mem_append.mp h with hfront | hinfo
    · rcases List.mem_append.mp hfront with herror | hwarning
      · exact ⟨.error, herror⟩
      · exact ⟨.warning, hwarning⟩
    · exact ⟨.info, hinfo⟩
  · rintro ⟨severity, h⟩
    cases severity with
    | error => exact List.mem_append_left _ (List.mem_append_left _ h)
    | warning => exact List.mem_append_left _ (List.mem_append_right _ h)
    | info => exact List.mem_append_right _ h

/-- Reports with the same buckets and counters are the same. -/
theorem ext_bucket {r s : Report} (hbucket : ∀ severity, r.bucket severity = s.bucket severity)
    (hstats : r.stats = s.stats) : r = s := by
  obtain ⟨errors, warnings, info, stats⟩ := r
  obtain rfl : errors = s.errors := hbucket .error
  obtain rfl : warnings = s.warnings := hbucket .warning
  obtain rfl : info = s.info := hbucket .info
  rw [show stats = s.stats from hstats]

end Report

namespace Store

/-- The findings of one severity. -/
def ofSeverity (severity : Severity) (findings : List Finding) : List Finding :=
  findings.filter fun f => f.code.severity = severity

/-- Findings that are all of one severity are of no other. -/
theorem ofSeverity_of_forall {severity : Severity} {findings : List Finding}
    (h : ∀ f ∈ findings, f.code.severity = severity) (other : Severity) :
    ofSeverity other findings = if severity = other then findings else [] := by
  unfold ofSeverity
  split
  next heq => exact List.filter_eq_self.mpr fun f hf => decide_eq_true ((h f hf).trans heq)
  next hne =>
    refine List.filter_eq_nil_iff.mpr fun f hf hother => ?_
    exact hne ((h f hf).symm.trans (of_decide_eq_true hother))

/-- The findings of one severity are told apart list by list. -/
@[simp] theorem ofSeverity_append (severity : Severity) (before after : List Finding) :
    ofSeverity severity (before ++ after) =
      ofSeverity severity before ++ ofSeverity severity after := List.filter_append ..

/-- What is stated of some things at one severity is stated of each of them at that severity. -/
@[simp] theorem ofSeverity_flatMap {α : Type} (severity : Severity) (things : List α)
    (states : α → List Finding) : ofSeverity severity (things.flatMap states) =
      things.flatMap fun a => ofSeverity severity (states a) := List.filter_flatMap ..

/-- A test that states one finding or none does so at the finding's severity. -/
theorem ofSeverity_ite {p : Prop} [Decidable p] (severity : Severity) (f : Finding) :
    ofSeverity severity (if p then [] else [f]) =
      if f.code.severity = severity then if p then [] else [f] else [] := by
  apply ofSeverity_of_forall
  intro g hg
  split at hg
  · contradiction
  · rw [List.mem_singleton.mp hg]

/-- Every finding has one of the severities. -/
theorem length_ofSeverity_add (findings : List Finding) :
    (ofSeverity .error findings).length + (ofSeverity .warning findings).length +
      (ofSeverity .info findings).length = findings.length := by
  induction findings with
  | nil => rfl
  | cons f findings ih =>
    unfold ofSeverity at *
    cases hseverity : f.code.severity <;> simp [hseverity] <;> omega

/-- Findings are recorded list by list. -/
theorem recordAll_append (s : Store) (before after : List Finding) :
    s.recordAll (before ++ after) = (s.recordAll before).recordAll after := List.foldl_append

/-- Recording findings leaves the root alone. -/
@[simp] theorem root_recordAll (s : Store) (findings : List Finding) :
    (s.recordAll findings).root = s.root := by
  induction findings generalizing s with
  | nil => rfl
  | cons f findings ih => exact ih (s.record f)

/-- A bucket gets the findings of its severity, in their order. -/
theorem bucket_recordAll (s : Store) (findings : List Finding) (severity : Severity) :
    (s.recordAll findings).report.bucket severity =
      s.report.bucket severity ++ (ofSeverity severity findings).map (s.violation severity) := by
  induction findings generalizing s with
  | nil => simp [recordAll, ofSeverity]
  | cons f findings ih =>
    have hviolation : (s.record f).violation severity = s.violation severity := rfl
    change ((s.record f).recordAll findings).report.bucket severity = _
    rw [ih, hviolation, record, bucket_add, List.append_assoc, ofSeverity, ofSeverity]
    by_cases h : f.code.severity = severity
    · simp [h]
    · simp [h]

/-- A finding is counted, at whatever severity, and the number of files stays. -/
theorem stats_add (s : Store) (severity : Severity) (f : Finding) :
    (s.add severity f).report.stats =
      ⟨s.report.stats.filesScanned, s.report.stats.totalViolations + 1⟩ := by
  cases severity <;> rfl

/-- The counter of violations grows by the number of findings, and that of files stays. -/
theorem stats_recordAll (s : Store) (findings : List Finding) :
    (s.recordAll findings).report.stats =
      ⟨s.report.stats.filesScanned, s.report.stats.totalViolations + findings.length⟩ := by
  induction findings generalizing s with
  | nil => rfl
  | cons f findings ih =>
    change ((s.record f).recordAll findings).report.stats = _
    rw [ih, record, stats_add, List.length_cons, Nat.add_assoc, Nat.add_comm 1]

/-- What was recorded with findings is what was there and the findings' violations. -/
theorem mem_violations_recordAll_iff {s : Store} {findings : List Finding} {v : Violation} :
    v ∈ (s.recordAll findings).report.violations ↔
      v ∈ s.report.violations ∨ ∃ f ∈ findings, v = s.violation f.code.severity f := by
  simp only [Report.mem_violations_iff, bucket_recordAll, List.mem_append, List.mem_map, ofSeverity,
    List.mem_filter, decide_eq_true_eq]
  constructor
  · rintro ⟨severity, hbefore | ⟨f, ⟨hf, rfl⟩, rfl⟩⟩
    · exact Or.inl ⟨severity, hbefore⟩
    · exact Or.inr ⟨f, hf, rfl⟩
  · rintro (⟨severity, hbefore⟩ | ⟨f, hf, rfl⟩)
    · exact ⟨severity, Or.inl hbefore⟩
    · exact ⟨f.code.severity, Or.inr ⟨f, ⟨hf, rfl⟩, rfl⟩⟩

/-- The violations that findings are recorded as, the heaviest first. -/
def violationsFor (s : Store) (findings : List Finding) : List Violation :=
  (ofSeverity .error findings).map (s.violation .error) ++
    (ofSeverity .warning findings).map (s.violation .warning) ++
    (ofSeverity .info findings).map (s.violation .info)

/-- Each finding is recorded as one violation. -/
theorem length_violationsFor (s : Store) (findings : List Finding) :
    (s.violationsFor findings).length = findings.length := by
  rw [violationsFor, List.length_append, List.length_append, List.length_map, List.length_map,
    List.length_map, length_ofSeverity_add]

/-- The violations of findings are the findings as they are recorded. -/
theorem mem_violationsFor_iff {s : Store} {findings : List Finding} {v : Violation} :
    v ∈ s.violationsFor findings ↔ ∃ f ∈ findings, v = s.violation f.code.severity f := by
  have hof (severity : Severity) : v ∈ (ofSeverity severity findings).map (s.violation severity) ↔
      ∃ f ∈ findings, f.code.severity = severity ∧ v = s.violation f.code.severity f := by
    simp only [ofSeverity, List.mem_map, List.mem_filter, decide_eq_true_eq]
    constructor
    · rintro ⟨f, ⟨hf, rfl⟩, rfl⟩
      exact ⟨f, hf, rfl, rfl⟩
    · rintro ⟨f, hf, rfl, rfl⟩
      exact ⟨f, ⟨hf, rfl⟩, rfl⟩
  simp only [violationsFor, List.mem_append, hof]
  constructor
  · rintro ((⟨f, hf, -, heq⟩ | ⟨f, hf, -, heq⟩) | ⟨f, hf, -, heq⟩) <;> exact ⟨f, hf, heq⟩
  · rintro ⟨f, hf, heq⟩
    cases hseverity : f.code.severity with
    | error => exact Or.inl (Or.inl ⟨f, hf, hseverity, heq⟩)
    | warning => exact Or.inl (Or.inr ⟨f, hf, hseverity, heq⟩)
    | info => exact Or.inr ⟨f, hf, hseverity, heq⟩

/-- A test of the file and the code that violations show leaves those of the findings that pass it. -/
theorem filter_violationsFor (s : Store) (findings : List Finding) (test : String → Code → Bool) :
    (s.violationsFor findings).filter (fun v => test v.file v.code) =
      s.violationsFor (findings.filter fun f => test (f.file.relativeTo s.root) f.code) := by
  have hof (severity : Severity) :
      ((ofSeverity severity findings).map (s.violation severity)).filter
          (fun v => test v.file v.code) =
        (ofSeverity severity (findings.filter fun f => test (f.file.relativeTo s.root) f.code)).map
          (s.violation severity) := by
    rw [List.filter_map, ofSeverity, ofSeverity, List.filter_filter, List.filter_filter]
    exact congrArg _ (List.filter_congr fun f _ => Bool.and_comm _ _)
  rw [violationsFor, List.filter_append, List.filter_append, hof, hof, hof]
  rfl

/-- What a check records in a store: each bucket gets the violations of some findings at its end, they are
counted, and all else stays as it was. -/
structure Gains (before after : Store) (errors warnings info : List Finding) : Prop where
  root_eq : after.root = before.root
  errors_eq : after.report.errors = before.report.errors ++ errors.map (before.violation .error)
  warnings_eq :
    after.report.warnings = before.report.warnings ++ warnings.map (before.violation .warning)
  info_eq : after.report.info = before.report.info ++ info.map (before.violation .info)
  filesScanned_eq : after.report.stats.filesScanned = before.report.stats.filesScanned
  totalViolations_eq : after.report.stats.totalViolations =
    before.report.stats.totalViolations + (errors.length + warnings.length + info.length)

/-- Findings are recorded by their severities. -/
theorem gains_recordAll {s : Store} {findings errors warnings info : List Finding}
    (herrors : ofSeverity .error findings = errors)
    (hwarnings : ofSeverity .warning findings = warnings) (hinfo : ofSeverity .info findings = info) :
    s.Gains (s.recordAll findings) errors warnings info := by
  subst herrors hwarnings hinfo
  constructor
  · exact s.root_recordAll findings
  · exact s.bucket_recordAll findings .error
  · exact s.bucket_recordAll findings .warning
  · exact s.bucket_recordAll findings .info
  · rw [stats_recordAll]
  · rw [stats_recordAll, length_ofSeverity_add]

end Store

end LayerAudit
