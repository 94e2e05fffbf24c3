import LayerAudit.Proofs.Json.RoundTrip
import LayerAudit.Proofs.Store.Recording
import LayerAudit.Report.Format

/-!
# Reports that are written and read back

Main statement: the report for programs loses nothing. What is written as JSON is read back as the
report that it was, whatever its buckets and texts hold, and two reports are never written alike. The
counters and the lines must fit 64 bits, as they do where they are counted.

That the text is read back as a JSON value holds of all values without fractions. Here the records are
read back from the values that they are written as.
-/

namespace LayerAudit

namespace Json

/-- The name of one of some values is read as that value if no other one has it. -/
theorem decodeNamed_name {α : Type} {all : List α} {name : α → String} {a : α} (ha : a ∈ all)
    (hname : ∀ b ∈ all, name b = name a → b = a) : decodeNamed all name (name a) = .ok a := by
  rw [decodeNamed]
  cases hfind : all.find? fun b => name b = name a with
  | none => exact absurd (decide_eq_true rfl) (List.find?_eq_none.mp hfind a ha)
  | some b =>
    have hsame : name b = name a := by simpa using List.find?_some hfind
    rw [hname b (List.mem_of_find?_eq_some hfind) hsame]

/-- A list is read back if its items are. -/
theorem decodeList_map {α : Type} {decode : Json → Decoded α} {encode : α → Json} {items : List α}
    (h : ∀ a ∈ items, decode (encode a) = .ok a) :
    decodeList decode (.array (items.map encode)) = .ok items := by
  rw [decodeList]
  induction items with
  | nil => rfl
  | cons a items ih =>
    rw [List.map_cons, List.mapM_cons, h a List.mem_cons_self,
      ih fun b hb => h b (List.mem_cons_of_mem _ hb)]
    rfl

/-- A count is read back. -/
theorem decodeCount_ofNat (n : Nat) : decodeCount (ofNat n) = .ok n := by
  rw [ofNat, decodeCount, if_neg (by omega), Int.toNat_natCast]

/-- What can be read is judged to be right. -/
theorem judge_eq_ok {α : Type} {decode : Json → Decoded α} {value : Json} {a : α}
    (h : decode value = .ok a) : judge decode value = .ok () := by
  rw [judge, h]
  rfl

/-- An object whose fields are all in order is read by the names of its fields. -/
theorem decodeRecord_object {α : Type} {kind : String} {count : Nat}
    {judgeField : String → Json → Decoded Unit} {read : Fields → Decoded α}
    {fields : List (String × Json)} (h : ∀ f ∈ fields, judgeField f.1 f.2 = .ok ()) :
    decodeRecord kind count judgeField read (.object fields) =
      read ⟨fun name _ => fields.lookup name, fun name _ => .missingField name⟩ := by
  have hjudged : (fields.forM fun f => judgeField f.1 f.2) = .ok () := by
    induction fields with
    | nil => rfl
    | cons f fields ih =>
      rw [List.forM, h f List.mem_cons_self]
      exact ih fun g hg => h g (List.mem_cons_of_mem _ hg)
  change ((fields.forM fun f => judgeField f.1 f.2) >>= fun _ => _) = _
  rw [hjudged]
  rfl

end Json

/-- The name of a severity is read back. -/
theorem Severity.ofJson_name (s : Severity) : Severity.ofJson (.string s.name) = .ok s := by
  refine Json.decodeNamed_name ?_ fun b _ => ?_
  · cases s <;> decide
  · cases s <;> cases b <;> decide

/-- The name of a code is read back. -/
theorem Code.ofJson_name (c : Code) : Code.ofJson (.string c.name) = .ok c :=
  Json.decodeNamed_name c.mem_all fun _ _ => Code.name_injective

namespace Violation

/-- A line that may be missing is read back. -/
theorem decodeOptional_lineJson (line : Option Nat) :
    Json.decodeOptional Json.decodeCount (lineJson line) = .ok line := by
  cases line with
  | none => rfl
  | some n =>
    change (Json.decodeCount (Json.ofNat n)).map some = _
    rw [Json.decodeCount_ofNat]
    rfl

/-- A violation is read back from its JSON value. -/
theorem ofJson_toJson (v : Violation) : ofJson v.toJson = .ok v := by
  have hjudged : ∀ f ∈ [("severity", Json.string v.severity.name), ("file", .string v.file),
      ("line", lineJson v.line), ("code", .string v.code.name), ("message", .string v.message)],
      judgeField f.1 f.2 = .ok () := by
    simp only [List.forall_mem_cons]
    exact ⟨Json.judge_eq_ok (Severity.ofJson_name v.severity), rfl,
      Json.judge_eq_ok (decodeOptional_lineJson v.line), Json.judge_eq_ok (Code.ofJson_name v.code),
      rfl, fun _ hf => absurd hf List.not_mem_nil⟩
  rw [ofJson, toJson, Json.decodeRecord_object hjudged]
  simp only [ofFields, Json.Fields.required, List.lookup_cons, BEq.rfl, String.reduceBEq, Json.decodeText,
    Severity.ofJson_name, decodeOptional_lineJson, Code.ofJson_name]
  rfl

/-- The line of a violation fits 64 bits if there is one. -/
def Fits (v : Violation) : Prop := ∀ line ∈ v.line, line ≤ Json.greatestInteger

end Violation

namespace Stats

/-- Counters are read back from their JSON value. -/
theorem ofJson_toJson (s : Stats) : ofJson s.toJson = .ok s := by
  have hjudged : ∀ f ∈ [("files_scanned", Json.ofNat s.filesScanned),
      ("total_violations", Json.ofNat s.totalViolations)], judgeField f.1 f.2 = .ok () := by
    simp only [List.forall_mem_cons]
    exact ⟨Json.judge_eq_ok (Json.decodeCount_ofNat s.filesScanned),
      Json.judge_eq_ok (Json.decodeCount_ofNat s.totalViolations),
      fun _ hf => absurd hf List.not_mem_nil⟩
  rw [ofJson, toJson, Json.decodeRecord_object hjudged]
  simp only [ofFields, Json.Fields.required, List.lookup_cons, BEq.rfl, String.reduceBEq,
    Json.decodeCount_ofNat]
  rfl

end Stats

namespace Report

/-- A list of violations is read back. -/
theorem decodeList_toJson (violations : List Violation) :
    Json.decodeList Violation.ofJson (.array (violations.map Violation.toJson)) = .ok violations :=
  Json.decodeList_map fun v _ => v.ofJson_toJson

/-- A report is read back from its JSON value. -/
theorem ofJson_toJson (r : Report) : ofJson r.toJson = .ok r := by
  have hjudged : ∀ f ∈ [("errors", Json.array (r.errors.map Violation.toJson)),
      ("warnings", .array (r.warnings.map Violation.toJson)),
      ("info", .array (r.info.map Violation.toJson)), ("stats", r.stats.toJson)],
      judgeField f.1 f.2 = .ok () := by
    simp only [List.forall_mem_cons]
    exact ⟨Json.judge_eq_ok (decodeList_toJson r.errors),
      Json.judge_eq_ok (decodeList_toJson r.warnings), Json.judge_eq_ok (decodeList_toJson r.info),
      Json.judge_eq_ok r.stats.ofJson_toJson, fun _ hf => absurd hf List.not_mem_nil⟩
  rw [ofJson, toJson, Json.decodeRecord_object hjudged]
  simp only [ofFields, Json.Fields.required, List.lookup_cons, BEq.rfl, String.reduceBEq,
    decodeList_toJson, Stats.ofJson_toJson]
  rfl

/-- The counters and lines of a report fit 64 bits. -/
structure Fits (r : Report) : Prop where
  files : r.stats.filesScanned ≤ Json.greatestInteger
  total : r.stats.totalViolations ≤ Json.greatestInteger
  lines : ∀ v ∈ r.violations, v.Fits

end Report

namespace Json

/-- A count of 64 bits is a whole number that fits. -/
theorem exact_ofNat {n : Nat} (h : n ≤ greatestInteger) : (ofNat n).Exact :=
  .integer ⟨by omega, Int.ofNat_le.mpr h⟩

/-- A violation is written without fractions. -/
theorem exact_violation {v : Violation} (hv : v.Fits) : v.toJson.Exact := by
  refine .object ?_
  simp only [List.forall_mem_cons]
  refine ⟨.string _, .string _, ?_, .string _, .string _, fun _ hf => absurd hf List.not_mem_nil⟩
  cases hline : v.line with
  | none => exact .null
  | some line => exact exact_ofNat (hv line hline)

/-- Violations are written without fractions. -/
theorem exact_violations {violations : List Violation} (h : ∀ v ∈ violations, v.Fits) :
    (array (violations.map Violation.toJson)).Exact := by
  refine .array fun item hitem => ?_
  obtain ⟨v, hv, rfl⟩ := List.mem_map.mp hitem
  exact exact_violation (h v hv)

/-- A report is written without fractions. -/
theorem exact_report {r : Report} (hr : r.Fits) : r.toJson.Exact := by
  have hbucket (severity : Severity) : ∀ v ∈ r.bucket severity, v.Fits :=
    fun v hv => hr.lines v (Report.mem_violations_iff.mpr ⟨severity, hv⟩)
  refine .object ?_
  simp only [List.forall_mem_cons]
  refine ⟨exact_violations (hbucket .error), exact_violations (hbucket .warning),
    exact_violations (hbucket .info), .object ?_, fun _ hf => absurd hf List.not_mem_nil⟩
  simp only [List.forall_mem_cons]
  exact ⟨exact_ofNat hr.files, exact_ofNat hr.total, fun _ hf => absurd hf List.not_mem_nil⟩

end Json

namespace Report

/-- The report that a JSON text holds, if it holds one. -/
def ofText? (text : String) : Option Report :=
  (Json.parse text).bind fun value => (ofJson value).toOption

/-- A report is read back from its text. -/
theorem ofText?_renderJson {r : Report} (hr : r.Fits) : ofText? r.renderJson = some r := by
  have hparse : Json.parse (r.toJson.pretty ++ "\n") = some r.toJson :=
    Json.parse_pretty (Json.exact_report hr) (by simp [Json.isBlank])
  rw [ofText?, renderJson, hparse, Option.bind_some, ofJson_toJson]
  rfl

/-- The JSON text of a report is read back as the report, and no other report has the same text. -/
theorem render_json_loses_nothing {r : Report} (hr : r.Fits) (options : TextOptions) :
    ofText? (r.render .json options) = some r ∧
      ∀ (s : Report) (others : TextOptions), s.Fits →
        s.render .json others = r.render .json options → s = r := by
  refine ⟨ofText?_renderJson hr, fun s others hs hsame => ?_⟩
  have hread : ofText? (s.render .json others) = ofText? (r.render .json options) :=
    congrArg ofText? hsame
  exact Option.some.inj ((ofText?_renderJson hs).symm.trans (hread.trans (ofText?_renderJson hr)))

/-- A report with text of all kinds, the greatest numbers and violations in buckets of other
severities is read back. -/
theorem render_json_loses_nothing_odd :
    let quoted : Violation := ⟨.info, "a\"b\\c.ts", none, .anyType, "\n\t\x01/\u2028😀"⟩
    let last : Violation := ⟨.error, "", some Json.greatestInteger, .parseError, ""⟩
    let r : Report := ⟨[quoted, last], [], [quoted], ⟨Json.greatestInteger, 0⟩⟩
    let options : TextOptions := ⟨false, true⟩
    r.Fits ∧ ofText? (r.render .json options) = some r ∧
      ∀ (s : Report) (others : TextOptions), s.Fits →
        s.render .json others = r.render .json options → s = r := by
  intro quoted last r options
  have hquoted : quoted.Fits := fun line hline => nomatch hline
  have hlast : last.Fits := fun line hline => Nat.le_of_eq (Option.some.inj hline).symm
  have hr : r.Fits := by
    refine ⟨Nat.le_refl _, Nat.zero_le _, fun v hv => ?_⟩
    have hcases : v = quoted ∨ v = last ∨ v = quoted := by simpa [violations, r] using hv
    rcases hcases with rfl | rfl | rfl
    · exact hquoted
    · exact hlast
    · exact hquoted
  exact ⟨hr, render_json_loses_nothing hr options⟩

end Report

end LayerAudit
