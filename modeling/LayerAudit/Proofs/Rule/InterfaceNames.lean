import LayerAudit.Proofs.Path.Stem
import LayerAudit.Proofs.Rule.Declarations
import LayerAudit.Proofs.Rule.Locality

/-!
# Names of interfaces and of their files

An interface's name is a capital I with another capital letter behind it, and goes on as it likes. A file with
one interface has the interface's name as its base name. Main statement: the rule on interfaces records, file
by file, one violation for each name that is no interface's, whatever else the file declares; one for each
file with a single interface and another base name; and one for each file with several interfaces, which says
how many they are. It records nothing else, so nothing of a file without interfaces.
-/

namespace LayerAudit.Rule.InterfaceConvention

/-- A name as interfaces have it: a capital I, and then another capital letter of the plain alphabet. -/
def IsInterfaceName (name : String) : Prop :=
  ∃ c rest, name.toList = 'I' :: c :: rest ∧ 'A' ≤ c ∧ c ≤ 'Z'

/-- An interface that is the only one in its file, and whose file has another base name. -/
def NamesNotItsFile (o : SourceFile × Interface) : Prop :=
  o.1.facts.interfaces.length = 1 ∧ ¬o.1.path.IsBaseName o.2.name

/-- What is stated of an interface whose name is no interface's. -/
def namingFinding (o : SourceFile × Interface) : Finding :=
  ⟨o.1.path, some o.2.line, .interfaceNaming,
    "Interface '" ++ o.2.name ++ "' should be prefixed with 'I' (e.g. 'I" ++ o.2.name ++ "')"⟩

/-- What is stated of an interface whose file has another base name. -/
def fileNamingFinding (o : SourceFile × Interface) : Finding :=
  ⟨o.1.path, some o.2.line, .fileNaming,
    "File '" ++ o.1.baseName ++ "' should be named after its interface '" ++ o.2.name ++ "'"⟩

/-- Names of interfaces are accepted exactly if they have the mark and a capital behind it. -/
theorem isPrefixed_iff {name : String} : isPrefixed name = true ↔ IsInterfaceName name := by
  have hcapital (c : Char) : c.isUpper = true ↔ 'A' ≤ c ∧ c ≤ 'Z' := decide_eq_true_iff
  unfold isPrefixed IsInterfaceName
  split
  next c rest hchars => simp [hchars, hcapital]
  next hother =>
    simp only [Bool.false_eq_true, false_iff]
    rintro ⟨c, rest, hchars, -⟩
    exact hother c rest hchars

instance : DecidablePred IsInterfaceName := fun _ => decidable_of_iff _ isPrefixed_iff

instance : DecidablePred NamesNotItsFile := fun _ => inferInstanceAs (Decidable (_ ∧ ¬_))

/-- What is stated of an interface and its name: first of the name, and then of the file's. -/
def nameFindings (o : SourceFile × Interface) : List Finding :=
  (if IsInterfaceName o.2.name then [] else [namingFinding o]) ++
    if NamesNotItsFile o then [fileNamingFinding o] else []

/-- The name of an interface is reported unless it is one for interfaces. -/
theorem namingFindings_eq (o : SourceFile × Interface) :
    namingFindings o.1 o.2 = if IsInterfaceName o.2.name then [] else [namingFinding o] := by
  simp only [namingFindings, isPrefixed_iff]
  rfl

/-- The only interface of a file is reported if the file is not named for it. -/
theorem fileNamingFindings_eq (o : SourceFile × Interface) (hone : o.1.facts.interfaces.length = 1) :
    fileNamingFindings o.1 o.2 = if NamesNotItsFile o then [fileNamingFinding o] else [] := by
  simp only [fileNamingFindings, SourceFile.baseName, Path.baseName_eq_iff, NamesNotItsFile, hone,
    true_and, ite_not]
  rfl

/-- Of an interface that is not the only one, its own name is looked at. -/
theorem nameFindings_eq_of_several (o : SourceFile × Interface)
    (hseveral : o.1.facts.interfaces.length ≠ 1) :
    nameFindings o = namingFindings o.1 o.2 := by
  simp [nameFindings, NamesNotItsFile, hseveral, namingFindings_eq]

/-- What is said of an interface's name is a warning. -/
theorem ofSeverity_namingFindings (severity : Severity) (file : SourceFile) (i : Interface) :
    Store.ofSeverity severity (namingFindings file i) =
      if .warning = severity then namingFindings file i else [] :=
  Store.ofSeverity_ite ..

/-- What is said of the name of an interface's file is a warning. -/
theorem ofSeverity_fileNamingFindings (severity : Severity) (file : SourceFile) (i : Interface) :
    Store.ofSeverity severity (fileNamingFindings file i) =
      if .warning = severity then fileNamingFindings file i else [] :=
  Store.ofSeverity_ite ..

/-- What is stated of a file with several interfaces. -/
theorem ofSeverity_several (severity : Severity) (file : SourceFile) (i : Interface)
    (rest : List Interface) :
    Store.ofSeverity severity
        (namingFindings file i ++ multipleFinding file :: rest.flatMap (namingFindings file)) =
      if .warning = severity then (i :: rest).flatMap (namingFindings file)
      else if .info = severity then [multipleFinding file] else [] := by
  rw [← List.singleton_append, Store.ofSeverity_append, Store.ofSeverity_append,
    Store.ofSeverity_flatMap]
  simp only [ofSeverity_namingFindings]
  cases severity <;> simp [Store.ofSeverity, multipleFinding, Code.severity]

/-- The warnings about a file are about the names of its interfaces, one by one. -/
theorem warnings_fileFindings (file : SourceFile) :
    Store.ofSeverity .warning (fileFindings file) =
      (declaredIn Facts.interfaces file).flatMap nameFindings := by
  rw [declaredIn, List.flatMap_map]
  unfold fileFindings
  split
  next hnone => rw [hnone]; rfl
  next i hone =>
    have hlength : file.facts.interfaces.length = 1 := by rw [hone]; rfl
    rw [hone, List.flatMap_singleton, nameFindings, ← namingFindings_eq,
      ← fileNamingFindings_eq _ hlength, Store.ofSeverity_append, ofSeverity_namingFindings,
      ofSeverity_fileNamingFindings, if_pos rfl, if_pos rfl]
  next i rest hmore hseveral =>
    have hlength : file.facts.interfaces.length ≠ 1 := by simpa [hseveral] using hmore
    rw [hseveral, ofSeverity_several, if_pos rfl]
    apply List.flatMap_congr
    intro k _
    exact (nameFindings_eq_of_several (file, k) hlength).symm

/-- What is said of a file beside the names is that it has several interfaces. -/
theorem info_fileFindings (file : SourceFile) :
    Store.ofSeverity .info (fileFindings file) =
      if 1 < file.facts.interfaces.length then [multipleFinding file] else [] := by
  unfold fileFindings
  split
  next hnone => rw [hnone]; rfl
  next i hone =>
    rw [hone, Store.ofSeverity_append, ofSeverity_namingFindings, ofSeverity_fileNamingFindings]
    rfl
  next i rest hmore hseveral =>
    have hlength : 1 < file.facts.interfaces.length := by
      have hrest := List.length_pos_iff.mpr hmore
      rw [hseveral, List.length_cons]
      omega
    rw [ofSeverity_several, if_pos hlength]
    rfl

/-- The rule on interfaces records what is wrong with the names of interfaces and of their files, interface
by interface, and which files have several of them. It records nothing else, whatever files are in the cache
and whatever was recorded before. -/
theorem check_records_interface_names (c : Classifier) (cache : Cache) (store : Store) :
    store.Gains (Rule.check c cache store .interfaceConvention)
      []
      ((declared Facts.interfaces cache.files).flatMap nameFindings)
      (cache.files.flatMap fun file =>
        if 1 < file.facts.interfaces.length then
          [⟨file.path, none, .multipleInterfaces,
            "File declares " ++ toString file.facts.interfaces.length ++
              " interfaces; consider one interface per file"⟩]
        else []) := by
  apply Store.gains_recordAll
  · exact ofSeverity_findings_eq_nil (by decide) c cache.files
  · rw [Rule.findings, findings, Store.ofSeverity_flatMap, declared, List.flatMap_assoc]
    simp only [warnings_fileFindings]
  · rw [Rule.findings, findings, Store.ofSeverity_flatMap]
    simp only [info_fileFindings]
    rfl

end LayerAudit.Rule.InterfaceConvention
