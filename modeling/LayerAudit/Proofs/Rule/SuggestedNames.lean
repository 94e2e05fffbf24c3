import LayerAudit.Proofs.Rule.InterfaceNames

/-!
# Names that are suggested for interfaces

What is said of an interface whose name is no interface's suggests another name for it, with a capital I in
front. An interface follows the advice if it has the suggested name, or keeps its own where none is suggested,
and its file does if it then has the interface's name with the extension `.ts`. Main statement: of a file that
followed the advice nothing is recorded exactly if the interface's name started with a capital letter of the
plain alphabet; where it did not, the suggested name is found fault with in its turn, and the name suggested
then is accepted.
-/

namespace LayerAudit.Rule.InterfaceConvention

/-- Whether a name starts with a capital letter of the plain alphabet. -/
def StartsWithCapital (name : String) : Prop :=
  ∃ first rest, name.toList = first :: rest ∧ 'A' ≤ first ∧ first ≤ 'Z'

/-- Whether a finding suggests a name for an interface. -/
structure Suggests (f : Finding) (i : Interface) (name : String) : Prop where
  code : f.code = .interfaceNaming
  message : f.message =
    "Interface '" ++ i.name ++ "' should be prefixed with 'I' (e.g. '" ++ name ++ "')"

/-- The name that an interface has when what is said of its file is followed. -/
inductive AdvisedName (file : SourceFile) (i : Interface) : String → Prop where
  | suggested {f : Finding} {name : String} (hfinding : f ∈ fileFindings file)
    (hname : Suggests f i name) : AdvisedName file i name
  /-- A name that is not found fault with stays. -/
  | kept (hnone : ∀ f ∈ fileFindings file, f.code ≠ .interfaceNaming) : AdvisedName file i i.name

/-- Whether a file is what another one with a single interface becomes when what is said of it is followed:
its interface has the advised name, and the file is named after the interface. -/
structure FollowsAdvice (file : SourceFile) (i : Interface) (mended : SourceFile) (j : Interface) :
    Prop where
  interfaces_before : file.facts.interfaces = [i]
  interfaces_after : mended.facts.interfaces = [j]
  name : AdvisedName file i j.name
  fileName : mended.path.fileName? = some (j.name ++ ".ts")

variable {file mended : SourceFile} {i j : Interface}

/-- A single interface is judged by its name and by the name of its file. -/
theorem fileFindings_of_one (hone : file.facts.interfaces = [i]) :
    fileFindings file = namingFindings file i ++ fileNamingFindings file i := by
  rw [fileFindings, hone]

/-- What is stated of an interface's name suggests that name with a capital I in front, and no other. -/
theorem suggests_namingFinding_iff {name : String} :
    Suggests (namingFinding (file, i)) i name ↔ name = "I" ++ i.name := by
  have hopening : "' should be prefixed with 'I' (e.g. 'I" =
      "' should be prefixed with 'I' (e.g. '" ++ "I" := by
    decide
  constructor
  · intro h
    have hmessage := h.message
    simp only [namingFinding, hopening, String.append_assoc, String.append_right_inj] at hmessage
    rw [← String.append_assoc, String.append_left_inj] at hmessage
    exact hmessage.symm
  · rintro rfl
    refine ⟨rfl, ?_⟩
    simp only [namingFinding, hopening, String.append_assoc]

/-- With a capital I in front, a name is an interface's if it started with a capital letter. -/
theorem isInterfaceName_append_iff {name : String} :
    IsInterfaceName ("I" ++ name) ↔ StartsWithCapital name := by
  have hchars : ("I" ++ name).toList = 'I' :: name.toList := by simp
  unfold IsInterfaceName StartsWithCapital
  rw [hchars]
  simp only [List.cons.injEq, true_and]

/-- The name of an interface starts with a capital letter. -/
theorem IsInterfaceName.startsWithCapital {name : String} (h : IsInterfaceName name) :
    StartsWithCapital name := by
  obtain ⟨c, rest, hchars, -⟩ := h
  exact ⟨'I', c :: rest, hchars, by decide, by decide⟩

/-- What is stated of names in a file with one interface is stated of that interface's name. -/
theorem mem_fileFindings_iff (hone : file.facts.interfaces = [i]) {f : Finding}
    (hcode : f.code = .interfaceNaming) :
    f ∈ fileFindings file ↔ ¬IsInterfaceName i.name ∧ f = namingFinding (file, i) := by
  have hother : f ∉ fileNamingFindings file i := by
    rw [fileNamingFindings]
    split
    · exact List.not_mem_nil
    · intro hf
      rw [List.mem_singleton.mp hf] at hcode
      contradiction
  rw [fileFindings_of_one hone, List.mem_append, or_iff_left hother, namingFindings_eq (file, i)]
  split
  next hname => simp [hname]
  next hname => simp [hname]

/-- The advised name is the one that the interface has if that is an interface's, and else that name with a
capital I in front. -/
theorem advisedName_iff (hone : file.facts.interfaces = [i]) {name : String} :
    AdvisedName file i name ↔
      name = if IsInterfaceName i.name then i.name else "I" ++ i.name := by
  constructor
  · rintro (⟨hfinding, hname⟩ | hnone)
    · obtain ⟨hfault, rfl⟩ := (mem_fileFindings_iff hone hname.code).mp hfinding
      rw [if_neg hfault]
      exact suggests_namingFinding_iff.mp hname
    · rw [if_pos]
      by_contra hfault
      exact hnone _ ((mem_fileFindings_iff hone rfl).mpr ⟨hfault, rfl⟩) rfl
  · rintro rfl
    split
    next hname =>
      refine .kept fun f hf hcode => ?_
      exact ((mem_fileFindings_iff hone hcode).mp hf).1 hname
    next hfault =>
      exact .suggested ((mem_fileFindings_iff hone rfl).mpr ⟨hfault, rfl⟩)
        (suggests_namingFinding_iff.mpr rfl)

/-- An advised name is an interface's exactly if the name before started with a capital letter. -/
theorem isInterfaceName_advisedName_iff (hone : file.facts.interfaces = [i]) {name : String}
    (h : AdvisedName file i name) : IsInterfaceName name ↔ StartsWithCapital i.name := by
  rw [(advisedName_iff hone).mp h]
  split
  next hname => exact iff_of_true hname hname.startsWithCapital
  next => exact isInterfaceName_append_iff

/-- An advised name starts with a capital letter itself. -/
theorem startsWithCapital_advisedName (hone : file.facts.interfaces = [i]) {name : String}
    (h : AdvisedName file i name) : StartsWithCapital name := by
  rw [(advisedName_iff hone).mp h]
  split
  next hname => exact hname.startsWithCapital
  next => exact ⟨'I', i.name.toList, by simp, by decide, by decide⟩

/-- A file with a name and the extension `.ts` has this name as its base name, unless it is empty. -/
theorem baseName_of_fileName? {p : Path} {name : String} (hname : name ≠ "")
    (h : p.fileName? = some (name ++ ".ts")) : p.baseName = name := by
  have hstem : Path.IsStem (name ++ "." ++ "ts") name := .front hname (by decide)
  rw [String.append_assoc] at hstem
  rw [Path.baseName, h]
  exact hstem.stem_eq

/-- Of a file that followed the advice at most the interface's name is found fault with. -/
theorem FollowsAdvice.fileFindings_eq (h : FollowsAdvice file i mended j) :
    fileFindings mended = namingFindings mended j := by
  have hne : j.name ≠ "" := by
    intro hempty
    obtain ⟨first, rest, hchars, -⟩ := startsWithCapital_advisedName h.interfaces_before h.name
    rw [hempty] at hchars
    contradiction
  have hfile : fileNamingFindings mended j = [] := if_pos (baseName_of_fileName? hne h.fileName)
  rw [fileFindings_of_one h.interfaces_after, hfile, List.append_nil]

/-- Where advice was followed, nothing is found exactly if the name started with a capital letter. -/
theorem FollowsAdvice.fileFindings_eq_nil_iff (h : FollowsAdvice file i mended j) :
    fileFindings mended = [] ↔ StartsWithCapital i.name := by
  rw [h.fileFindings_eq, namingFindings_eq (mended, j),
    ← isInterfaceName_advisedName_iff h.interfaces_before h.name]
  simp

/-- Nothing is recorded of a file among others exactly if nothing is found in it. -/
theorem check_eq_iff (c : Classifier) (before after : List SourceFile) (failed : List Path)
    (store : Store) :
    Rule.check c ⟨before ++ file :: after, failed⟩ store .interfaceConvention =
        Rule.check c ⟨before ++ after, failed⟩ store .interfaceConvention ↔
      fileFindings file = [] := by
  have hfindings : findings (before ++ file :: after) =
      findings before ++ (fileFindings file ++ findings after) := by
    simp [findings]
  have hothers : findings (before ++ after) = findings before ++ findings after := by
    simp [findings]
  simp only [Rule.check, Rule.findings, hfindings, hothers]
  constructor
  · intro h
    have hcount := congrArg (fun s => s.report.stats.totalViolations) h
    simp only [Store.stats_recordAll, List.length_append] at hcount
    exact List.eq_nil_of_length_eq_zero (by omega)
  · intro hnil
    rw [hnil, List.nil_append]

/-- After the advice was followed, the rule records of a file what it would without it exactly if the name of
the interface started with a capital letter of the plain alphabet. If the advice is followed once more, it
does so in any case. -/
theorem advice_accepted_iff (c : Classifier) (before after : List SourceFile) (failed : List Path)
    (store : Store) (h : FollowsAdvice file i mended j) :
    let record := fun files => Rule.check c ⟨files, failed⟩ store .interfaceConvention
    (record (before ++ mended :: after) = record (before ++ after) ↔ StartsWithCapital i.name) ∧
      ∀ again k, FollowsAdvice mended j again k →
        record (before ++ again :: after) = record (before ++ after) := by
  intro record
  refine ⟨(check_eq_iff c before after failed store).trans h.fileFindings_eq_nil_iff, ?_⟩
  intro again k hagain
  apply (check_eq_iff c before after failed store).mpr
  exact hagain.fileFindings_eq_nil_iff.mpr (startsWithCapital_advisedName h.interfaces_before h.name)

/-- The name suggested for `widget` is found fault with in its turn; those suggested for it and for `Widget`
are accepted. -/
theorem advice_accepted_iff_lower_case :
    let interface := fun name => (⟨1, name⟩ : Interface)
    let file := fun name => (⟨⟨"/src/domain/" ++ name ++ ".ts"⟩, "interface " ++ name ++ " {}\n",
      ⟨[], [], [], [interface name]⟩⟩ : SourceFile)
    let follows := fun name next =>
      FollowsAdvice (file name) (interface name) (file next) (interface next)
    let record := fun files =>
      Rule.check ⟨⟨"/src"⟩⟩ ⟨files, []⟩ (Store.empty ⟨"/src"⟩) .interfaceConvention
    follows "widget" "Iwidget" ∧ follows "Iwidget" "IIwidget" ∧ follows "Widget" "IWidget" ∧
      record [file "Iwidget"] ≠ record [] ∧ record [file "IIwidget"] = record [] ∧
      record [file "IWidget"] = record [] := by
  intro interface file follows record
  have hlower : follows "widget" "Iwidget" :=
    ⟨rfl, rfl, (advisedName_iff rfl).mpr (by decide), by decide⟩
  have hagain : follows "Iwidget" "IIwidget" :=
    ⟨rfl, rfl, (advisedName_iff rfl).mpr (by decide), by decide⟩
  have hupper : follows "Widget" "IWidget" :=
    ⟨rfl, rfl, (advisedName_iff rfl).mpr (by decide), by decide⟩
  have hstays : ¬StartsWithCapital "widget" := by
    rintro ⟨first, rest, hchars, -, hhigh⟩
    obtain ⟨rfl, -⟩ := List.cons.inj (hchars : 'w' :: "idget".toList = first :: rest)
    exact absurd hhigh (by decide)
  have hcapital : StartsWithCapital "Widget" :=
    ⟨'W', "idget".toList, by decide, by decide, by decide⟩
  obtain ⟨hfirst, hsecond⟩ :=
    advice_accepted_iff ⟨⟨"/src"⟩⟩ [] [] [] (Store.empty ⟨"/src"⟩) hlower
  have haccepted := (advice_accepted_iff ⟨⟨"/src"⟩⟩ [] [] [] (Store.empty ⟨"/src"⟩) hupper).1
  exact ⟨hlower, hagain, hupper, fun h => hstays (hfirst.mp h), hsecond _ _ hagain,
    haccepted.mpr hcapital⟩

end LayerAudit.Rule.InterfaceConvention
