import LayerAudit.Proofs.Cache.History
import LayerAudit.Proofs.Text.Utf8
import LayerAudit.Rule.Basic
import Mathlib.Data.List.Pairwise
import Mathlib.Data.List.Sort

/-!
# The order in which files are parsed

Files with different paths may be parsed in any order. Main statement: for two orders of the same files the
caches have the same files and remember the same failures, the failures that are recorded are the same up
to their order, and every rule then finds the same in the same order.

Among readings of different paths every one is the first of its path, so what is remembered of a path is
decided by one reading, wherever in the history it stands. The files of a cache stand in the order of their
paths, which leaves one list for them. The failures stand in the order of the history and are only known to
be rearranged.
-/

namespace LayerAudit

namespace Reading

variable {history other : List Reading}

/-- Readings of different paths are all first ones. -/
theorem firsts_eq_self
    (h : history.Pairwise fun r s => r.path.components ≠ s.path.components) :
    firsts history = history := by
  induction history with
  | nil => rfl
  | cons r rest ih =>
    obtain ⟨hr, hrest⟩ := List.pairwise_cons.mp h
    have hkept : ∀ later ∈ rest, (!later.path.same r.path) = true := fun later hlater => by
      rw [Bool.not_eq_true', ← Bool.not_eq_true, Path.same_iff]
      exact (hr later hlater).symm
    rw [firsts, ih hrest, List.filter_eq_self.mpr hkept]

/-- The first reading of a path does not depend on the order of readings of different paths. -/
theorem first?_eq_of_perm
    (h : history.Pairwise fun r s => r.path.components ≠ s.path.components)
    (hperm : other.Perm history) (path : Path) : first? other path = first? history path := by
  have hother : other.Pairwise fun r s => r.path.components ≠ s.path.components :=
    (hperm.pairwise_iff Ne.symm).mpr h
  ext r
  rw [first?_eq_some_iff, first?_eq_some_iff, firsts_eq_self h, firsts_eq_self hother,
    hperm.mem_iff]

/-- Readings of different paths in another order have their first readings rearranged. -/
theorem firsts_perm (h : history.Pairwise fun r s => r.path.components ≠ s.path.components)
    (hperm : other.Perm history) : (firsts other).Perm (firsts history) := by
  rwa [firsts_eq_self h, firsts_eq_self ((hperm.pairwise_iff Ne.symm).mpr h)]

end Reading

namespace Session

variable {extract : Extractor} {before : Store} {history other : List Reading} {s t : Session}

/-- The readings of attempts, each in the file system as it is at that moment. -/
def readingsOf (attempts : List (FileTree × Path)) : List Reading :=
  attempts.map fun a => .ofTree a.1 a.2

/-- A session that attempts files holds what follows from their readings. -/
theorem Recalls.parseEach (h : s.Recalls extract before history)
    (attempts : List (FileTree × Path)) :
    (s.parseEach extract attempts).Recalls extract before (history ++ readingsOf attempts) := by
  induction attempts generalizing s history with
  | nil => rwa [readingsOf, List.map_nil, List.append_nil]
  | cons a attempts ih =>
    have hrest := ih (h.parse a.1 a.2)
    rwa [List.append_assoc] at hrest

/-- A cache has a file exactly if it tells the file of the file's path. -/
theorem mem_files_iff {c : Cache} (h : c.Ordered) {file : SourceFile} :
    file ∈ c.files ↔ c.get? file.path = some file := by
  refine ⟨fun hfile => ?_, fun hget => List.mem_of_find?_eq_some hget⟩
  have hsome : (c.get? file.path).isSome = true :=
    List.find?_isSome.mpr ⟨file, hfile, Path.same_iff.mpr rfl⟩
  obtain ⟨found, hfound⟩ := Option.isSome_iff_exists.mp hsome
  have hsame := List.find?_some hfound
  have hdiffer : c.files.Pairwise fun f g => f.path.components ≠ g.path.components :=
    h.imp fun hbefore => hbefore.components_ne
  have : Std.Symm fun f g : SourceFile => f.path.components ≠ g.path.components :=
    ⟨fun _ _ => Ne.symm⟩
  by_cases heq : found = file
  · rw [hfound, heq]
  · exact absurd (Path.same_iff.mp hsame)
      (hdiffer.forall (List.mem_of_find?_eq_some hfound) hfile heq)

/-- Caches that tell the same of every path have the same files in the same order. -/
theorem files_eq_of_get?_eq {c d : Cache} (hc : c.Ordered) (hd : d.Ordered)
    (h : ∀ path, c.get? path = d.get? path) : c.files = d.files := by
  have : Std.Asymm fun f g : SourceFile => f.path.Before g.path := ⟨fun _ _ hfg => hfg.asymm⟩
  refine List.Pairwise.eq_of_mem_iff hc hd fun file => ?_
  rw [mem_files_iff hc, mem_files_iff hd, h]

/-- The failures to parse that a session has recorded. -/
def parseErrors (s : Session) : List Violation :=
  s.store.report.errors.filter fun v => decide (v.code = .parseError)

section Reordered

variable (hs : s.Recalls extract before history) (ht : t.Recalls extract before other)
  (hdiffer : history.Pairwise fun r q => r.path.components ≠ q.path.components)
  (hperm : other.Perm history)

include hs ht hdiffer hperm

/-- Histories that differ in their order leave the same files. -/
theorem Recalls.files_eq_of_perm : t.cache.files = s.cache.files :=
  files_eq_of_get?_eq ht.ordered hs.ordered fun path => by
    rw [ht.parsed, hs.parsed, Reading.first?_eq_of_perm hdiffer hperm]

/-- Histories that differ in their order leave the same paths as failed. -/
theorem Recalls.hasFailed_eq_of_perm (path : Path) :
    t.cache.hasFailed path = s.cache.hasFailed path := by
  rw [Bool.eq_iff_iff, ht.hasFailed_iff, hs.hasFailed_iff, Reading.first?_eq_of_perm hdiffer hperm]

end Reordered

/-- Files with different paths that are parsed in another order, each as it could be read at its attempt,
leave the same files and the same failed paths. The failures that are recorded are rearranged, and
nothing else that is recorded differs. A rule that is checked then adds the same findings in the same
order. -/
theorem findings_forget_parse_order (extract : Extractor) (store : Store) (c : Classifier) (r : Rule)
    {attempts reordered : List (FileTree × Path)}
    (hdiffer : attempts.Pairwise fun a b => a.2.components ≠ b.2.components)
    (hperm : reordered.Perm attempts) :
    let s := (start store).parseEach extract attempts
    let t := (start store).parseEach extract reordered
    (∃ found : List Finding,
      r.check c s.cache s.store = s.store.recordAll found ∧
      r.check c t.cache t.store = t.store.recordAll found ∧
      ∀ severity, ∃ block : List Violation,
        (r.check c s.cache s.store).report.bucket severity =
          s.store.report.bucket severity ++ block ∧
        (r.check c t.cache t.store).report.bucket severity =
          t.store.report.bucket severity ++ block) ∧
      t.cache.files = s.cache.files ∧
      (t.cache.failed.Perm s.cache.failed ∧
        ∀ path, t.cache.hasFailed path = s.cache.hasFailed path) ∧
      t.parseErrors.Perm s.parseErrors ∧
      t.store.report = { s.store.report with errors := t.store.report.errors } := by
  intro s t
  have hs : s.Recalls extract store (readingsOf attempts) :=
    (recalls_start extract store).parseEach attempts
  have ht : t.Recalls extract store (readingsOf reordered) :=
    (recalls_start extract store).parseEach reordered
  have hreadings : (readingsOf attempts).Pairwise fun r q => r.path.components ≠ q.path.components :=
    List.pairwise_map.mpr hdiffer
  have hmoved : (readingsOf reordered).Perm (readingsOf attempts) := hperm.map _
  have hfiles := hs.files_eq_of_perm ht hreadings hmoved
  have hfirsts := Reading.firsts_perm hreadings hmoved
  have hfailed : t.cache.failed.Perm s.cache.failed := by
    rw [ht.failed, hs.failed]
    exact hfirsts.filterMap _
  have hroot : t.store.root = s.store.root := by
    rw [ht.recorded, hs.recorded, Store.root_recordAll, Store.root_recordAll]
  refine ⟨⟨r.findings c s.cache.files, rfl, ?_, fun severity => ?_⟩, hfiles,
    ⟨hfailed, hs.hasFailed_eq_of_perm ht hreadings hmoved⟩, ?_, ?_⟩
  · rw [Rule.check, hfiles]
  · refine ⟨_, Store.bucket_recordAll _ _ _, ?_⟩
    rw [Rule.check, hfiles, Store.bucket_recordAll]
    unfold Store.violation
    rw [hroot]
  · rw [parseErrors, parseErrors, ht.report_eq, hs.report_eq]
    exact ((hfirsts.filterMap _).append_left _).filter _
  · rw [ht.report_eq, hs.report_eq, hfailed.length_eq]

/-- To parse a path uses nothing but what is loaded from it. -/
theorem parse_congr {load other : Path → Except LoadFault SourceFile} {path : Path}
    (h : load path = other path) (s : Session) : s.parse load path = s.parse other path := by
  rw [parse, parse, Cache.attempt, Cache.attempt, h]

/-- Two files with an annotation each, one with bytes that are no text and one that cannot be read, parsed in
one order and from the last to the first. The rule on annotations then finds the same in the order of the
paths. -/
theorem findings_forget_parse_order_reversed :
    let facts : Facts := ⟨[], [], [], []⟩
    let extract : Extractor := fun _ => .ok facts
    let alone (name : String) (content : Content) : FileTree × Path :=
      (⟨[(name, .file content)]⟩, ⟨"/" ++ name⟩)
    let attempts := [alone "d.ts" (Text.encodeUtf8 ":any;"), alone "b.ts" (.ok [0xff]),
      alone "c.ts" (Text.encodeUtf8 ":any;"), alone "e.ts" (.error .denied)]
    let s := (start (.empty ⟨"/"⟩)).parseEach extract attempts
    let t := (start (.empty ⟨"/"⟩)).parseEach extract attempts.reverse
    let c : Classifier := .ofRoot ⟨"/"⟩
    (attempts.Pairwise (fun a b => a.2.components ≠ b.2.components) ∧
      attempts.reverse.Perm attempts) ∧
      (s.cache.files = [⟨⟨"/c.ts"⟩, ":any;", facts⟩, ⟨⟨"/d.ts"⟩, ":any;", facts⟩] ∧
        t.cache.files = s.cache.files) ∧
      t.cache.failed.Perm s.cache.failed ∧ t.parseErrors.Perm s.parseErrors ∧
      ∃ block, block.map Violation.file = ["c.ts", "d.ts"] ∧
        (Rule.typeQuality.check c s.cache s.store).report.bucket .warning =
          s.store.report.bucket .warning ++ block ∧
        (Rule.typeQuality.check c t.cache t.store).report.bucket .warning =
          t.store.report.bucket .warning ++ block := by
  intro facts extract alone attempts s t c
  have hdiffer : attempts.Pairwise fun a b => a.2.components ≠ b.2.components := by decide
  have hperm : attempts.reverse.Perm attempts := List.reverse_perm attempts
  have hboth := findings_forget_parse_order extract (.empty ⟨"/"⟩) c .typeQuality hdiffer hperm
  extract_lets at hboth
  obtain ⟨⟨-, -, -, hblock⟩, hsame, ⟨hfailed, -⟩, herrors, -⟩ := hboth
  obtain ⟨block, hs, ht⟩ := hblock .warning
  have hread (name : String) (content : Content) (hpieces : FileTree.pieces ⟨"/" ++ name⟩ = ["", name])
      (hname : (Component.name name).IsInner) :
      (alone name content).1.read ⟨"/" ++ name⟩ = content.mapError .unreadable :=
    FileTree.read_of_find (FileTree.find_of_at? [name] hpieces (List.forall_mem_singleton.mpr hname)
      (by simp [alone, FileTree.at?, FileTree.top, Entry.child?]) (fun _ => Entry.noConfusion) (by simp))
  let text (path : Path) : Except LoadFault SourceFile := .ok ⟨path, ":any;", facts⟩
  let broken (_ : Path) : Except LoadFault SourceFile := .error (.notText ⟨0, some 1⟩)
  let locked (_ : Path) : Except LoadFault SourceFile := .error (.unreadable (.unreadable .denied))
  have hsession : s = ((((start (.empty ⟨"/"⟩)).parse text ⟨"/" ++ "d.ts"⟩).parse broken
      ⟨"/" ++ "b.ts"⟩).parse text ⟨"/" ++ "c.ts"⟩).parse locked ⟨"/" ++ "e.ts"⟩ := by
    have htext (name : String) (hpieces : FileTree.pieces ⟨"/" ++ name⟩ = ["", name])
        (hname : (Component.name name).IsInner) :
        SourceFile.load extract (alone name (Text.encodeUtf8 ":any;")).1 ⟨"/" ++ name⟩ =
          text ⟨"/" ++ name⟩ :=
      SourceFile.load_eq_ok_iff.mpr
        ⟨_, _, facts, hread name _ hpieces hname, Text.decodeUtf8_encodeUtf8 ":any;", rfl, rfl⟩
    have hbroken : SourceFile.load extract (alone "b.ts" (.ok [0xff])).1 ⟨"/" ++ "b.ts"⟩ =
        broken ⟨"/" ++ "b.ts"⟩ :=
      SourceFile.load_eq_error_iff.mpr
        (.notText (hread "b.ts" _ (by decide) (by decide)) (by decide : Text.decodeUtf8 [0xff] = _))
    have hlocked : SourceFile.load extract (alone "e.ts" (.error .denied)).1 ⟨"/" ++ "e.ts"⟩ =
        locked ⟨"/" ++ "e.ts"⟩ :=
      SourceFile.load_eq_error_iff.mpr (.unreadable (hread "e.ts" _ (by decide) (by decide)))
    rw [← parse_congr hlocked, ← parse_congr (htext "c.ts" (by decide) (by decide)),
      ← parse_congr hbroken, ← parse_congr (htext "d.ts" (by decide) (by decide))]
    rfl
  have hfiles : s.cache.files = [⟨⟨"/c.ts"⟩, ":any;", facts⟩, ⟨⟨"/d.ts"⟩, ":any;", facts⟩] := by
    rw [hsession]
    decide +kernel
  have hroot : s.store.root = ⟨"/"⟩ := by
    rw [hsession]
    decide +kernel
  refine ⟨⟨hdiffer, hperm⟩, ⟨hfiles, hsame⟩, hfailed, herrors, block, ?_, hs, ht⟩
  rw [Rule.check, hfiles, Store.bucket_recordAll] at hs
  rw [← List.append_cancel_left hs, List.map_map]
  simp only [Function.comp_def, Store.violation, hroot]
  decide +kernel

end Session

end LayerAudit
