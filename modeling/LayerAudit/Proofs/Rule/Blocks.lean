import LayerAudit.Proofs.Rule.Locality

/-!
# Rules only append

A rule that is checked adds a block of violations at the end of each bucket: those that it would
record in a store that is still empty. Main statement: rules that are checked one after the other, in
any order and as often as one likes, add their blocks and nothing else. So each rule's part can be told
by its codes among what was added, where it is the rule's block, once for each time that the rule was
checked.

That a block does not depend on what is in the store follows from how findings are recorded. That it can
be told by its codes takes that no code belongs to two rules.
-/

namespace LayerAudit.Rule

/-- Records what rules find in the files of a cache, rule after rule. -/
def checkAll (c : Classifier) (cache : Cache) (store : Store) (rules : List Rule) : Store :=
  rules.foldl (fun store r => r.check c cache store) store

/-- The violations of one severity that a rule adds to an empty store. -/
def block (c : Classifier) (cache : Cache) (root : Path) (severity : Severity) (r : Rule) :
    List Violation :=
  (r.check c cache (.empty root)).report.bucket severity

variable {c : Classifier} {cache : Cache}

/-- Rules that are checked one after the other record what they find, rule by rule. -/
theorem checkAll_eq_recordAll (c : Classifier) (cache : Cache) (store : Store) (rules : List Rule) :
    checkAll c cache store rules =
      store.recordAll (rules.flatMap fun r => r.findings c cache.files) := by
  induction rules generalizing store with
  | nil => rfl
  | cons r rules ih =>
    change checkAll c cache (r.check c cache store) rules = _
    rw [ih, check, ← Store.recordAll_append, List.flatMap_cons]

/-- A rule's block has the violations of its findings. -/
theorem block_eq (c : Classifier) (cache : Cache) (store : Store) (severity : Severity) (r : Rule) :
    r.block c cache store.root severity =
      (Store.ofSeverity severity (r.findings c cache.files)).map (store.violation severity) := by
  rw [block, check, Store.bucket_recordAll]
  cases severity <;> rfl

/-- A bucket gets the blocks of the rules, in the order in which the rules are checked. -/
theorem bucket_checkAll (c : Classifier) (cache : Cache) (store : Store) (rules : List Rule)
    (severity : Severity) :
    (checkAll c cache store rules).report.bucket severity =
      store.report.bucket severity ++ rules.flatMap (block c cache store.root severity) := by
  have hblocks : (Store.ofSeverity severity (rules.flatMap fun r => r.findings c cache.files)).map
      (store.violation severity) = rules.flatMap (block c cache store.root severity) := by
    rw [Store.ofSeverity_flatMap, List.map_flatMap]
    exact List.flatMap_congr fun r _ => (block_eq c cache store severity r).symm
  rw [checkAll_eq_recordAll, Store.bucket_recordAll, hblocks]

/-- The violations of a rule's block have codes of the rule. -/
theorem code_mem_of_mem_block {root : Path} {severity : Severity} {r : Rule} {v : Violation}
    (h : v ∈ r.block c cache root severity) : v.code ∈ r.codes := by
  rw [show root = (Store.empty root).root from rfl, block_eq] at h
  obtain ⟨f, hf, rfl⟩ := List.mem_map.mp h
  obtain ⟨file, -, habout⟩ := exists_isAbout_of_mem_findings (List.mem_filter.mp hf).1
  exact habout.2

/-- Of the blocks of some rules, those of one rule are told by their codes. -/
theorem filter_codes_blocks (root : Path) (severity : Severity) (rules : List Rule) (r : Rule) :
    (rules.flatMap (block c cache root severity)).filter (fun v => decide (v.code ∈ r.codes)) =
      (List.replicate (rules.count r) (r.block c cache root severity)).flatten := by
  refine filter_flatMap_eq_replicate fun s _ v hv => decide_eq_decide.mpr ⟨fun hr => ?_, ?_⟩
  · exact eq_of_mem_codes (code_mem_of_mem_block hv) hr
  · rintro rfl
    exact code_mem_of_mem_block hv

/-- Rules that are checked one after the other, in any order and with repetitions, leave what was
recorded where it is and add blocks behind it. Among what they add, the violations with a rule's codes
are the rule's block in an empty store, once for each time that the rule is checked. No other codes are
added, and the counter of violations grows by the number of those added. -/
theorem checkAll_adds_blocks (c : Classifier) (cache : Cache) (store : Store) (rules : List Rule) :
    let after := checkAll c cache store rules
    ∃ added : Severity → List Violation,
      (∀ severity,
        after.report.bucket severity = store.report.bucket severity ++ added severity ∧
        (∀ r : Rule, (added severity).filter (fun v => decide (v.code ∈ r.codes)) =
          (List.replicate (rules.count r)
            ((r.check c cache (.empty store.root)).report.bucket severity)).flatten) ∧
        ∀ v ∈ added severity, ∃ r ∈ rules, v.code ∈ r.codes) ∧
      after.report.stats = ⟨store.report.stats.filesScanned, store.report.stats.totalViolations +
        ((added .error).length + (added .warning).length + (added .info).length)⟩ := by
  intro after
  refine ⟨fun severity => rules.flatMap (block c cache store.root severity), fun severity => ?_, ?_⟩
  · refine ⟨bucket_checkAll c cache store rules severity, filter_codes_blocks _ _ rules, ?_⟩
    intro v hv
    obtain ⟨r, hr, hblock⟩ := List.mem_flatMap.mp hv
    exact ⟨r, hr, code_mem_of_mem_block hblock⟩
  · have hlength (severity : Severity) :
        (rules.flatMap (block c cache store.root severity)).length =
          (Store.ofSeverity severity (rules.flatMap fun r => r.findings c cache.files)).length := by
      have hbucket := bucket_checkAll c cache store rules severity
      rw [checkAll_eq_recordAll, Store.bucket_recordAll] at hbucket
      rw [← List.append_cancel_left hbucket, List.length_map]
    rw [hlength, hlength, hlength, Store.length_ofSeverity_add]
    change (checkAll c cache store rules).report.stats = _
    rw [checkAll_eq_recordAll, Store.stats_recordAll]

end LayerAudit.Rule
