import LayerAudit.Proofs.Cache.Attempts
import LayerAudit.Proofs.FileTree.Ways
import Mathlib.Data.List.Basic

/-!
# What a session remembers while the file system changes

A session is used in a file system that others write to. All that it tells later follows from its
history, which lists for each call of the parser the path and what could be read there at that moment.
Of the history only the first reading of each path counts: it decides whether the path is parsed or
failed, with which facts, and what is recorded.

One reading extends what is remembered by itself, if its path is new, and by nothing else. The main
statement is an induction over all that happens, in any order and with any changes in between.
-/

namespace LayerAudit

/-- What a path held when it was to be parsed: its bytes, or why there were none. -/
structure Reading where
  path : Path
  content : Except PathFault (List UInt8)

namespace Reading

/-- What a path holds in a file system. -/
def ofTree (tree : FileTree) (path : Path) : Reading := ⟨path, tree.read path⟩

/-- What becomes of a reading. -/
def outcome (extract : Extractor) (r : Reading) : Except LoadFault SourceFile := do
  SourceFile.ofBytes extract r.path (← r.content.mapError LoadFault.unreadable)

/-- The facts of a reading, if it has any. -/
def facts? (extract : Extractor) (r : Reading) : Option SourceFile := (r.outcome extract).toOption

/-- Why a reading has no facts, if it has none. -/
def fault? (extract : Extractor) (r : Reading) : Option LoadFault :=
  match r.outcome extract with
  | .ok _ => none
  | .error fault => some fault

/-- The violation that a reading without facts is recorded as. -/
def violation? (extract : Extractor) (root : Path) (r : Reading) : Option Violation :=
  (r.fault? extract).map fun fault =>
    ⟨.error, r.path.relativeTo root, none, .parseError, "Failed to parse file: " ++ fault.message⟩

/-- What is stated of a reading without facts. -/
def findings (extract : Extractor) (r : Reading) : List Finding :=
  failureFindings (fun _ => r.outcome extract) r.path

/-- The path of a reading without facts. -/
def failedPath? (extract : Extractor) (r : Reading) : Option Path :=
  (r.fault? extract).map fun _ => r.path

/-- What is stated of a reading is recorded as its violation, if it has one. -/
theorem map_violation_findings {extract : Extractor} (r : Reading) (before : Store) :
    (r.findings extract).map (before.violation .error) =
      (r.violation? extract before.root).toList := by
  cases houtcome : r.outcome extract <;>
    simp [findings, failureFindings, Attempt.findings, violation?, fault?, houtcome,
      Store.violation]

/-- One finding is stated of a reading that fails, and none of others. -/
theorem length_findings {extract : Extractor} (r : Reading) :
    (r.findings extract).length = (r.failedPath? extract).toList.length := by
  cases houtcome : r.outcome extract <;>
    simp [findings, failureFindings, Attempt.findings, failedPath?, fault?, houtcome]

/-- The first reading of a path. -/
def first? (history : List Reading) (path : Path) : Option Reading :=
  history.find? (·.path.same path)

/-- The readings of paths that were not read before. -/
def firsts : List Reading → List Reading
  | [] => []
  | r :: rest => r :: (firsts rest).filter fun later => !later.path.same r.path

/-- There is a first reading of a path exactly if there is a reading of it. -/
theorem first?_isSome_iff {history : List Reading} {path : Path} :
    (first? history path).isSome = true ↔ ∃ r ∈ history, r.path.same path = true :=
  List.find?_isSome

/-- Later readings of a path do not count. -/
theorem first?_append (history later : List Reading) (path : Path) :
    first? (history ++ later) path = (first? history path).or (first? later path) :=
  List.find?_append

/-- The first reading of a path is the one in front, if that is of the path. -/
theorem first?_cons (r : Reading) (rest : List Reading) (path : Path) :
    first? (r :: rest) path = if r.path.same path then some r else first? rest path := by
  rw [first?, List.find?_cons]
  cases r.path.same path <;> rfl

/-- One more reading counts for its path if there is none before it. -/
theorem first?_append_singleton (history : List Reading) (r : Reading) (path : Path) :
    first? (history ++ [r]) path =
      (first? history path).or (if r.path.same path then some r else none) := by
  rw [first?_append, first?_cons]
  rfl

/-- A reading is the first one of a path exactly if it is among the first ones and has that path. -/
theorem first?_eq_some_iff {history : List Reading} {path : Path} {r : Reading} :
    first? history path = some r ↔ r ∈ firsts history ∧ r.path.same path = true := by
  induction history with
  | nil => simp [first?, firsts]
  | cons a rest ih =>
    simp only [firsts, List.mem_cons, List.mem_filter, Bool.not_eq_true', ← Bool.not_eq_true,
      Path.same_iff, first?_cons] at ih ⊢
    split
    next ha =>
      constructor
      · intro h
        obtain rfl := Option.some.inj h
        exact ⟨Or.inl rfl, ha⟩
      · rintro ⟨rfl | ⟨-, hne⟩, hr⟩
        · rfl
        · exact absurd (hr.trans ha.symm) hne
    next ha =>
      rw [ih]
      constructor
      · rintro ⟨hr, hpath⟩
        exact ⟨Or.inr ⟨hr, fun h => ha (h.symm.trans hpath)⟩, hpath⟩
      · rintro ⟨rfl | ⟨hr, -⟩, hpath⟩
        · exact absurd hpath ha
        · exact ⟨hr, hpath⟩

/-- One more reading is a first one exactly if its path was not read before. -/
theorem firsts_append_singleton (history : List Reading) (r : Reading) :
    firsts (history ++ [r]) =
      firsts history ++ if (first? history r.path).isSome then [] else [r] := by
  induction history with
  | nil => rfl
  | cons a rest ih =>
    have hswap : r.path.same a.path = a.path.same r.path := by
      rw [Bool.eq_iff_iff, Path.same_iff, Path.same_iff, eq_comm]
    rw [List.cons_append, firsts, ih, firsts, List.filter_append, List.cons_append, first?_cons]
    by_cases hsame : a.path.same r.path = true <;>
      by_cases hrest : (first? rest r.path).isSome = true <;> simp [hsame, hrest, hswap]

/-- The first readings have different paths. -/
theorem pairwise_firsts (history : List Reading) :
    (firsts history).Pairwise fun r s => r.path.components ≠ s.path.components := by
  induction history with
  | nil => exact .nil
  | cons a rest ih =>
    refine List.pairwise_cons.mpr ⟨fun s hs => ?_, ih.filter _⟩
    have hne := (List.mem_filter.mp hs).2
    rw [Bool.not_eq_true', ← Bool.not_eq_true, Path.same_iff] at hne
    exact Ne.symm hne

/-- The paths that fail are different ones. -/
theorem pairwise_failedPath? (extract : Extractor) (history : List Reading) :
    ((firsts history).filterMap (failedPath? extract)).Pairwise fun p q =>
      p.components ≠ q.components := by
  refine (pairwise_firsts history).filterMap _ fun r s hne p hp q hq => ?_
  obtain ⟨-, -, rfl⟩ := Option.map_eq_some_iff.mp hp
  obtain ⟨-, -, rfl⟩ := Option.map_eq_some_iff.mp hq
  exact hne

end Reading

/-- A file with a new path is found under it, and all others as before. -/
theorem Cache.find?_insert {f : SourceFile} {files : List SourceFile}
    (hnew : ∀ g ∈ files, g.path.components ≠ f.path.components) (path : Path) :
    (insert f files).find? (·.path.same path) =
      if f.path.same path then some f else files.find? (·.path.same path) := by
  induction files with
  | nil =>
    rw [insert, List.find?_cons]
    cases f.path.same path <;> rfl
  | cons other rest ih =>
    rw [insert]
    split
    · rw [List.find?_cons]
      cases f.path.same path <;> rfl
    · rw [List.find?_cons, List.find?_cons, ih fun g hg => hnew g (List.mem_cons_of_mem _ hg)]
      cases hother : other.path.same path with
      | false => rfl
      | true =>
        have hf : f.path.same path = false := by
          rw [← Bool.not_eq_true, Path.same_iff]
          exact fun h => hnew other List.mem_cons_self ((Path.same_iff.mp hother).trans h.symm)
        simp [hf]

/-- Something that happens to a session or to the file system around it. -/
inductive Event where
  | parse (path : Path)
  | get (path : Path)
  /-- Files are written or removed, so that the file system becomes another one. -/
  | change (tree : FileTree)

/-- A session in the file system that it reads from. -/
structure Workspace where
  tree : FileTree
  session : Session

namespace Workspace

/-- What an event leads to. -/
def step (extract : Extractor) (w : Workspace) : Event → Workspace
  | .parse path => { w with session := w.session.parse (SourceFile.load extract w.tree) path }
  | .get _ => w
  | .change tree => { w with tree }

/-- What those are told who parse a path or ask for it. -/
def answer (extract : Extractor) (w : Workspace) : Event → Option SourceFile
  | .parse path => (w.step extract (.parse path)).session.cache.get? path
  | .get path => w.session.cache.get? path
  | .change _ => none

/-- What events lead to. -/
def run (extract : Extractor) (w : Workspace) (events : List Event) : Workspace :=
  events.foldl (step extract) w

/-- The readings that events come to in a file system. -/
def readings (tree : FileTree) : List Event → List Reading
  | [] => []
  | .parse path :: rest => .ofTree tree path :: readings tree rest
  | .get _ :: rest => readings tree rest
  | .change next :: rest => readings next rest

end Workspace

namespace Session

open Reading (first? firsts)

/-- What a session holds is what follows from a history. -/
structure Recalls (extract : Extractor) (before : Store) (history : List Reading) (s : Session) :
    Prop where
  parsed : ∀ path, s.cache.get? path = (first? history path).bind (Reading.facts? extract)
  failed : s.cache.failed = (firsts history).filterMap (Reading.failedPath? extract)
  recorded : s.store = before.recordAll ((firsts history).flatMap (Reading.findings extract))
  ordered : s.cache.Ordered

variable {extract : Extractor} {before : Store} {history : List Reading} {s : Session}

/-- A session starts with no readings to recall. -/
theorem recalls_start (extract : Extractor) (store : Store) :
    (start store).Recalls extract store [] :=
  ⟨fun _ => rfl, rfl, rfl, ordered_start store⟩

/-- A path failed exactly if its first reading has no facts. -/
theorem Recalls.hasFailed_iff (h : s.Recalls extract before history) (path : Path) :
    s.cache.hasFailed path = true ↔
      ∃ r, first? history path = some r ∧ (r.fault? extract).isSome = true := by
  simp only [Cache.hasFailed, h.failed, List.any_eq_true, List.mem_filterMap,
    Reading.failedPath?, Option.map_eq_some_iff, Option.isSome_iff_exists,
    Reading.first?_eq_some_iff]
  constructor
  · rintro ⟨q, ⟨r, hr, fault, hfault, rfl⟩, hpath⟩
    exact ⟨r, ⟨hr, hpath⟩, fault, hfault⟩
  · rintro ⟨r, ⟨hr, hpath⟩, fault, hfault⟩
    exact ⟨r.path, ⟨r, hr, fault, hfault, rfl⟩, hpath⟩

/-- A path is remembered exactly if it was read. -/
theorem Recalls.remembers_iff (h : s.Recalls extract before history) (path : Path) :
    s.cache.Remembers path ↔ (first? history path).isSome = true := by
  rw [← Cache.remembers_iff, Bool.or_eq_true, h.hasFailed_iff, h.parsed]
  cases hfirst : first? history path with
  | none => simp
  | some r => cases houtcome : r.outcome extract <;>
      simp [Reading.facts?, Reading.fault?, houtcome, Except.toOption]

/-- A reading of a path that was read before adds nothing. -/
theorem Recalls.append_of_isSome (h : s.Recalls extract before history) {r : Reading}
    (hr : (first? history r.path).isSome = true) : s.Recalls extract before (history ++ [r]) := by
  have hfirsts : firsts (history ++ [r]) = firsts history := by
    rw [Reading.firsts_append_singleton, if_pos hr, List.append_nil]
  refine ⟨fun path => ?_, ?_, ?_, h.ordered⟩
  · rw [h.parsed, Reading.first?_append_singleton]
    split
    next hpath =>
      have hsome : (first? history path).isSome = true := by
        obtain ⟨q, hq, hsame⟩ := Reading.first?_isSome_iff.mp hr
        refine Reading.first?_isSome_iff.mpr ⟨q, hq, Path.same_iff.mpr ?_⟩
        exact (Path.same_iff.mp hsame).trans (Path.same_iff.mp hpath)
      obtain ⟨q, hq⟩ := Option.isSome_iff_exists.mp hsome
      rw [hq]
      rfl
    next => rw [Option.or_none]
  · rw [hfirsts, h.failed]
  · rw [hfirsts, h.recorded]

/-- A path that is not remembered has no first reading, however it is written. -/
theorem Recalls.first?_eq_none (h : s.Recalls extract before history) {path other : Path}
    (hnew : ¬s.cache.Remembers path) (hsame : path.same other = true) :
    first? history other = none := by
  rw [← Option.not_isSome_iff_eq_none, ← h.remembers_iff, Cache.Remembers,
    ← Path.same_iff.mp hsame]
  exact hnew

/-- To parse a path is to remember one more reading. -/
theorem Recalls.parse (h : s.Recalls extract before history) (tree : FileTree) (path : Path) :
    (s.parse (SourceFile.load extract tree) path).Recalls extract before
      (history ++ [.ofTree tree path]) := by
  have hload : (Reading.ofTree tree path).outcome extract = SourceFile.load extract tree path := rfl
  have hordered : (s.parse (SourceFile.load extract tree) path).cache.Ordered :=
    ordered_parse SourceFile.path_of_load h.ordered path
  rcases parse_cases (SourceFile.load extract tree) s path with ⟨hold, hsame⟩ | ⟨hnew, hparsed⟩
  · rw [hsame]
    exact h.append_of_isSome ((h.remembers_iff path).mp hold)
  · have hfirsts : firsts (history ++ [.ofTree tree path]) =
        firsts history ++ [.ofTree tree path] := by
      rw [Reading.firsts_append_singleton, if_neg]
      exact mt (h.remembers_iff path).mpr hnew
    -- for the path itself this reading counts, and for all others those before it
    have hfirst (other : Path) : first? (history ++ [.ofTree tree path]) other =
        if path.same other then some (.ofTree tree path) else first? history other := by
      rw [Reading.first?_append_singleton]
      change (first? history other).or (if path.same other then _ else _) = _
      split
      next hother => rw [h.first?_eq_none hnew hother, Option.none_or]
      next => rw [Option.or_none]
    rcases hparsed with ⟨file, hfile, hparsed⟩ | ⟨fault, hfault, hfailed⟩
    · have hpath : file.path = path := SourceFile.path_of_load hfile
      rw [hparsed] at hordered ⊢
      refine ⟨fun other => ?_, ?_, ?_, hordered⟩
      · have hinsert : (Cache.insert file s.cache.files).find? (·.path.same other) = _ :=
          Cache.find?_insert (fun g hg heq => hnew (Or.inr ⟨g, hg, by rw [heq, hpath]⟩)) other
        rw [Cache.get?, hinsert, hfirst, hpath]
        split
        next => simp [Reading.facts?, hload, hfile, Except.toOption]
        next => exact h.parsed other
      · simp [hfirsts, h.failed, Reading.failedPath?, Reading.fault?, hload, hfile]
      · simp [hfirsts, h.recorded, Reading.findings, failureFindings, hload, hfile]
    · rw [hfailed] at hordered ⊢
      refine ⟨fun other => ?_, ?_, ?_, hordered⟩
      · have hother := h.parsed other
        rw [hfirst]
        split
        next hsame =>
          have hnone : (Reading.ofTree tree path).facts? extract = none := by
            rw [Reading.facts?, hload, hfault]
            rfl
          rw [h.first?_eq_none hnew hsame] at hother
          rw [Option.bind_some, hnone]
          exact hother
        next => exact hother
      · simp [hfirsts, h.failed, Reading.failedPath?, Reading.fault?, hload, hfault]
        rfl
      · rw [hfirsts, List.flatMap_append, Store.recordAll_append, ← h.recorded,
          List.flatMap_singleton]
        rfl

/-- No path is parsed and failed. -/
theorem Recalls.not_parsed_and_failed (h : s.Recalls extract before history) (path : Path) :
    ¬((s.cache.get? path).isSome = true ∧ s.cache.hasFailed path = true) := by
  rintro ⟨hparsed, hfailed⟩
  obtain ⟨r, hr, hfault⟩ := (h.hasFailed_iff path).mp hfailed
  rw [h.parsed, hr] at hparsed
  cases houtcome : r.outcome extract <;>
    simp [Reading.facts?, Reading.fault?, houtcome, Except.toOption] at hparsed hfault

/-- The paths that are parsed or failed are those that were read. -/
theorem Recalls.parsed_or_failed_iff (h : s.Recalls extract before history) (path : Path) :
    (s.cache.get? path).isSome = true ∨ s.cache.hasFailed path = true ↔
      ∃ r ∈ history, r.path.same path = true := by
  rw [← Reading.first?_isSome_iff, ← h.remembers_iff, ← Cache.remembers_iff, Bool.or_eq_true,
    or_comm]

/-- What is told of a path that was read does not change with further readings. -/
theorem Recalls.get?_eq_of_append {next : Session} {later : List Reading} {path : Path}
    (h : s.Recalls extract before history) (hnext : next.Recalls extract before (history ++ later))
    (hpath : (first? history path).isSome = true) : next.cache.get? path = s.cache.get? path := by
  obtain ⟨r, hr⟩ := Option.isSome_iff_exists.mp hpath
  rw [hnext.parsed, h.parsed, Reading.first?_append, hr]
  rfl

/-- All that is recorded is one error for each failed path. -/
theorem Recalls.report_eq (h : s.Recalls extract before history) :
    s.store.report = { before.report with
      errors := before.report.errors ++
        (firsts history).filterMap (Reading.violation? extract before.root)
      stats := ⟨before.report.stats.filesScanned,
        before.report.stats.totalViolations + s.cache.failed.length⟩ } := by
  let found := (firsts history).flatMap (Reading.findings extract)
  have hseverity : ∀ f ∈ found, f.code.severity = .error := by
    intro f hf
    obtain ⟨r, -, hr⟩ := List.mem_flatMap.mp hf
    exact congrArg Code.severity (mem_failureFindings hr).2
  have hviolations : found.map (before.violation .error) =
      (firsts history).filterMap (Reading.violation? extract before.root) := by
    rw [List.map_flatMap, List.filterMap_eq_flatMap_toList]
    exact List.flatMap_congr fun r _ => r.map_violation_findings before
  have hcount : found.length = s.cache.failed.length := by
    rw [h.failed, List.filterMap_eq_flatMap_toList, List.length_flatMap, List.length_flatMap]
    exact congrArg List.sum (List.map_congr_left fun r _ => r.length_findings)
  have hbucket (severity : Severity) : s.store.report.bucket severity =
      before.report.bucket severity ++
        (if .error = severity then found else []).map (before.violation severity) := by
    rw [h.recorded, Store.bucket_recordAll, Store.ofSeverity_of_forall hseverity]
  refine Report.ext_bucket (fun severity => ?_) ?_
  · rw [hbucket]
    cases severity with
    | error => exact congrArg (before.report.errors ++ ·) hviolations
    | warning => exact List.append_nil _
    | info => exact List.append_nil _
  · rw [h.recorded, Store.stats_recordAll, ← hcount]

/-- An attempt after which a path has no facts leaves the files alone, and all that is known of
other paths. -/
theorem parse_of_get?_eq_none (load : Path → Except LoadFault SourceFile)
    (hload : ∀ {path file}, load path = .ok file → file.path = path) {path : Path}
    (h : (s.parse load path).cache.get? path = none) :
    (s.parse load path).cache.files = s.cache.files ∧
      ∀ other, ¬path.same other = true →
        (s.parse load path).cache.hasFailed other = s.cache.hasFailed other := by
  rcases parse_cases load s path with
    ⟨-, hsame⟩ | ⟨-, ⟨file, hfile, hparsed⟩ | ⟨fault, -, hfailed⟩⟩
  · rw [hsame]
    exact ⟨rfl, fun _ _ => rfl⟩
  · have hmem : file ∈ (s.parse load path).cache.files := by
      rw [hparsed]
      exact Cache.mem_insert.mpr (Or.inl rfl)
    have hsame : file.path.same path = true := Path.same_iff.mpr (by rw [hload hfile])
    exact absurd hsame (List.find?_eq_none.mp h file hmem)
  · rw [hfailed]
    refine ⟨rfl, fun other hother => ?_⟩
    simp [Cache.hasFailed, hother]

end Session

namespace Workspace

open Reading (first? firsts)

variable {extract : Extractor}

/-- Whatever happens, a session holds what follows from its history. -/
theorem recalls_run {before : Store} {history : List Reading} {w : Workspace}
    (h : w.session.Recalls extract before history) (events : List Event) :
    (w.run extract events).session.Recalls extract before (history ++ readings w.tree events) := by
  induction events generalizing w history with
  | nil => rwa [readings, List.append_nil]
  | cons event events ih =>
    cases event with
    | parse path =>
      have hrest := ih (w := w.step extract (.parse path)) (h.parse w.tree path)
      rwa [List.append_assoc] at hrest
    | get path => exact ih h
    | change tree => exact ih (w := w.step extract (.change tree)) h

/-- The paths that are read are those that are parsed. -/
theorem exists_reading_iff {tree : FileTree} {events : List Event} {path : Path} :
    (∃ r ∈ readings tree events, r.path.same path = true) ↔
      ∃ q, Event.parse q ∈ events ∧ q.same path = true := by
  induction events generalizing tree with
  | nil => simp [readings]
  | cons event events ih =>
    cases event <;> simp [readings, Reading.ofTree, ih, or_and_right, exists_or]

/-- After whatever happens, the paths that were to be parsed are either parsed or failed, and what is
told of a path is decided by what could be read at its first attempt, now and after anything that
happens later. The store has one error without a line for each failed path, in the order of their
first attempts, and nothing else. A call that gives no facts changes nothing but what is known of its
path. The parsed files stand in the order of their paths. -/
theorem run_recalls_first_readings (extract : Extractor) (tree : FileTree) (store : Store)
    (events : List Event) :
    let w := run extract ⟨tree, .start store⟩ events
    let history := readings tree events
    let cache := w.session.cache
    let report := w.session.store.report
    (∀ path, ¬((cache.get? path).isSome = true ∧ cache.hasFailed path = true) ∧
      ((cache.get? path).isSome = true ∨ cache.hasFailed path = true ↔
        ∃ q, Event.parse q ∈ events ∧ q.same path = true)) ∧
    (∀ path,
      w.answer extract (.get path) = (first? history path).bind (Reading.facts? extract) ∧
      w.answer extract (.parse path) =
        (first? (history ++ [.ofTree w.tree path]) path).bind (Reading.facts? extract)) ∧
    (∀ path later, (∃ q, Event.parse q ∈ events ∧ q.same path = true) →
      (w.run extract later).answer extract (.get path) = w.answer extract (.get path) ∧
      (w.run extract later).answer extract (.parse path) = w.answer extract (.get path)) ∧
    (cache.failed = (firsts history).filterMap (Reading.failedPath? extract) ∧
      cache.failed.Pairwise (fun p q => p.components ≠ q.components) ∧
      report = { store.report with
        errors := store.report.errors ++
          (firsts history).filterMap (Reading.violation? extract store.root)
        stats := ⟨store.report.stats.filesScanned,
          store.report.stats.totalViolations + cache.failed.length⟩ }) ∧
    (∀ path, w.answer extract (.parse path) = none →
      let next := (w.step extract (.parse path)).session.cache
      next.files = cache.files ∧ ∀ other, ¬path.same other = true →
        next.get? other = cache.get? other ∧ next.hasFailed other = cache.hasFailed other) ∧
    cache.files.Pairwise (fun f g => f.path.Before g.path) := by
  intro w history cache report
  have hrecalls : w.session.Recalls extract store history :=
    recalls_run (w := ⟨tree, .start store⟩) (Session.recalls_start extract store) events
  have hattempted (path : Path) : (∃ r ∈ history, r.path.same path = true) ↔ _ :=
    exists_reading_iff
  refine ⟨fun path => ⟨hrecalls.not_parsed_and_failed path, ?_⟩, fun path => ?_,
    fun path later hpath => ?_, ⟨hrecalls.failed, ?_, hrecalls.report_eq⟩, fun path hnone => ?_,
    hrecalls.ordered⟩
  · rw [hrecalls.parsed_or_failed_iff, hattempted]
  · exact ⟨hrecalls.parsed path, (hrecalls.parse w.tree path).parsed path⟩
  · have hsome := Reading.first?_isSome_iff.mpr ((hattempted path).mpr hpath)
    have hlater := recalls_run hrecalls later
    have hagain := hlater.parse (w.run extract later).tree path
    rw [List.append_assoc] at hagain
    exact ⟨hrecalls.get?_eq_of_append hlater hsome, hrecalls.get?_eq_of_append hagain hsome⟩
  · rw [hrecalls.failed]
    exact Reading.pairwise_failedPath? extract history
  · obtain ⟨hfiles, hfailed⟩ := Session.parse_of_get?_eq_none (SourceFile.load extract w.tree)
      SourceFile.path_of_load hnone
    refine ⟨hfiles, fun other hother => ⟨?_, hfailed other hother⟩⟩
    exact congrArg (fun files => files.find? (·.path.same other)) hfiles

/-- A file that is missing at first stays failed when it is written later, and is not read again. -/
theorem run_recalls_first_readings_missing :
    let extract : Extractor := fun _ => .ok ⟨[], [], [], []⟩
    let path : Path := ⟨"/a.ts"⟩
    let written : FileTree := ⟨[("a.ts", .file (.ok []))]⟩
    let w := run extract ⟨.empty, .start (.empty ⟨"/"⟩)⟩ [.parse path]
    ((SourceFile.load extract written path).isOk = true ∧
      ∃ q, Event.parse q ∈ [Event.parse path] ∧ q.same path = true) ∧
      w.answer extract (.get path) = none ∧
      (w.run extract [.change written]).answer extract (.parse path) = none := by
  intro extract path written w
  have hattempted : ∃ q, Event.parse q ∈ [Event.parse path] ∧ q.same path = true :=
    ⟨path, List.mem_cons_self, by decide⟩
  obtain ⟨-, htold, hkept, -⟩ :=
    run_recalls_first_readings extract .empty (.empty ⟨"/"⟩) [.parse path]
  have hmissing : FileTree.empty.read path = .error .notFound := by
    have hpieces : FileTree.pieces path = ["", "a.ts"] := by decide
    have htop : FileTree.empty.at? List.nil.reverse = some (.directory []) := rfl
    have hfollow : FileTree.empty.follow FileTree.maxLinks [] ["", "a.ts"] = .error .notFound := by
      rw [FileTree.follow, htop]
      simp only [true_or, if_true]
      rw [FileTree.follow, htop]
      rfl
    have htext : ¬path.text.isEmpty = true := by decide
    rw [FileTree.read, FileTree.find, FileTree.resolve, if_neg htext, hpieces, hfollow]
    rfl
  have hnone : w.answer extract (.get path) = none := by
    refine (htold path).1.trans ?_
    have hfirst : Reading.first? (readings .empty [.parse path]) path =
        some (.ofTree .empty path) := by
      rw [readings, Reading.first?_cons, if_pos (by decide)]
    rw [hfirst, Option.bind_some, Reading.ofTree, hmissing]
    rfl
  have hwritten : written.read path = .ok [] :=
    FileTree.read_eq_ok_iff.mpr
      (FileTree.find_of_at? ["a.ts"] (by decide) (by decide) rfl (fun _ => Entry.noConfusion) (by decide))
  refine ⟨⟨?_, hattempted⟩, hnone, ?_⟩
  · rw [SourceFile.load, hwritten]
    rfl
  exact ((hkept path [.change written] hattempted).2).trans hnone

end Workspace

end LayerAudit
