import LayerAudit.Proofs.List.Matching
import LayerAudit.Proofs.Rule.Locality

/-!
# What a finding is about

A topic is what there may be a finding about: a file, or an import or a declaration in it, with the code
that the finding would have. The topics of a rule are written down here in one order, whatever the rule
states of them in the end. Main statement: what a rule states keeps to the order of its topics, with one
finding at most for each of them.

A rule goes over its files in passes, and over the declarations of a file one by one. So the order is
shown for one declaration, and carried over to files and passes by lists that are put together alike.
-/

namespace LayerAudit

/-- An import or a declaration in a file. -/
inductive Subject where
  | ofImport (i : Import)
  | ofInterface (i : Interface)
  | ofClass (k : Class)
  deriving DecidableEq, Repr

namespace Subject

/-- The line on which the subject starts. -/
def line : Subject → Nat
  | ofImport i => i.line
  | ofInterface i => i.line
  | ofClass k => k.line

/-- The module that is imported, or the name that is declared. -/
def name : Subject → String
  | ofImport i => i.specifier
  | ofInterface i => i.name
  | ofClass k => k.name

end Subject

/-- The imports, the interfaces and the classes of a file. -/
def Facts.subjects (f : Facts) : List Subject :=
  f.imports.map .ofImport ++ f.interfaces.map .ofInterface ++ f.classes.map .ofClass

/-- The codes of findings about a whole file. -/
def Code.wholeFile : List Code := [parseError, multipleInterfaces, anyType]

/-- Whether a message has some words in it. -/
def Mentions (message words : String) : Prop := ∃ before after, message = before ++ words ++ after

namespace Mentions

variable {message words opening closing : String}

/-- A message that goes on mentions what it mentioned before. -/
theorem append (h : Mentions message words) (more : String) : Mentions (message ++ more) words := by
  obtain ⟨before, after, rfl⟩ := h
  exact ⟨before, after ++ more, String.append_assoc⟩

/-- What opens a message is in it with the name behind it, up to the mark that closes the name. -/
theorem opening_quoted (name after : String) (hclosing : closing = "'" ++ after) :
    Mentions (opening ++ name ++ closing) (opening ++ name ++ "'") :=
  ⟨"", after, by simp only [hclosing, String.empty_append, String.append_assoc]⟩

/-- A name that stands between two marks is in a message with the marks. -/
theorem quoted (name before after : String) (hopening : opening = before ++ "'")
    (hclosing : closing = "'" ++ after) :
    Mentions (opening ++ name ++ closing) ("'" ++ name ++ "'") :=
  ⟨before, after, by simp only [hopening, hclosing, String.append_assoc]⟩

end Mentions

/-- What there may be a finding about: a file or a subject in it, with the code of the finding. -/
structure Topic where
  file : Path
  subject : Option Subject
  code : Code
  deriving DecidableEq, Repr

namespace Topic

/-- The words by which a message names the subject. Of contracts and of classes it is said in different
words where they belong. -/
def mention (t : Topic) : String :=
  match t.subject, t.code with
  | none, _ => ""
  | some (.ofInterface i), .repositoryLocation => "Repository interface '" ++ i.name ++ "'"
  | some (.ofClass k), .repositoryLocation => "Repository implementation '" ++ k.name ++ "'"
  | some s, _ => "'" ++ s.name ++ "'"

/-- Whether a finding is about a topic: it has the file, the code and the line of the subject, and names
the subject. -/
def IsOf (f : Finding) (t : Topic) : Prop :=
  f.file = t.file ∧ f.code = t.code ∧ f.line = t.subject.map Subject.line ∧
    Mentions f.message t.mention

/-- Whether findings keep to the order of some topics, with one finding at most for each of them. -/
def Ordered (findings : List Finding) (topics : List Topic) : Prop :=
  List.SublistForall₂ IsOf findings topics

/-- The failure to parse a file as a topic. -/
def failure (path : Path) : Topic := ⟨path, none, .parseError⟩

/-- A file as a topic. -/
def whole (code : Code) (file : SourceFile) : Topic := ⟨file.path, none, code⟩

/-- An import as a topic. -/
def ofImport (code : Code) (file : SourceFile) (i : Import) : Topic :=
  ⟨file.path, some (.ofImport i), code⟩

/-- An interface as a topic. -/
def ofInterface (code : Code) (file : SourceFile) (i : Interface) : Topic :=
  ⟨file.path, some (.ofInterface i), code⟩

/-- A class as a topic. -/
def ofClass (code : Code) (file : SourceFile) (k : Class) : Topic :=
  ⟨file.path, some (.ofClass k), code⟩

/-- The imports of a file as topics. -/
def ofImports (code : Code) (file : SourceFile) : List Topic :=
  file.facts.imports.map (ofImport code file)

/-- The interfaces of a file as topics. -/
def ofInterfaces (code : Code) (file : SourceFile) : List Topic :=
  file.facts.interfaces.map (ofInterface code file)

/-- The classes of a file as topics. -/
def ofClasses (code : Code) (file : SourceFile) : List Topic :=
  file.facts.classes.map (ofClass code file)

/-- The names that the rule on interfaces looks at with an interface: its own before the file's. -/
def ofNames (file : SourceFile) (i : Interface) : List Topic :=
  [ofInterface .interfaceNaming file i, ofInterface .fileNaming file i]

/-- The classes of a file as topics, each of them with one code and then with another. -/
def ofClassPairs (code other : Code) (file : SourceFile) : List Topic :=
  file.facts.classes.flatMap fun k => [ofClass code file k, ofClass other file k]

/-- What is said of a whole file is about the file. -/
theorem isOf_whole (path : Path) (code : Code) (message : String) :
    IsOf ⟨path, none, code, message⟩ ⟨path, none, code⟩ :=
  ⟨rfl, rfl, rfl, "", message, by rw [mention, String.append_empty, String.empty_append]⟩

/-- A test that states one finding or none keeps to a topic that the finding is about. -/
theorem ordered_ite {p : Prop} [Decidable p] {f : Finding} {t : Topic} (h : IsOf f t) :
    Ordered (if p then [] else [f]) [t] := by
  split
  · exact .nil
  · exact .cons h .nil

/-- The topics of one severity. -/
def ofSeverity (severity : Severity) (topics : List Topic) : List Topic :=
  topics.filter fun t => t.code.severity = severity

/-- Findings of one severity keep to the order of the topics of that severity. -/
theorem Ordered.ofSeverity {findings : List Finding} {topics : List Topic}
    (h : Ordered findings topics) (severity : Severity) :
    Ordered (Store.ofSeverity severity findings) (Topic.ofSeverity severity topics) := by
  refine List.SublistForall₂.filter (fun hof => ?_) h
  rw [hof.2.1]

end Topic

namespace Rule

open Topic

/-- What the rule on interfaces looks at in a file. That there are several is said behind what is said
of the first one. -/
def InterfaceConvention.topics (file : SourceFile) : List Topic :=
  (file.facts.interfaces.take 1).flatMap (ofNames file) ++
    whole .multipleInterfaces file :: (file.facts.interfaces.drop 1).flatMap (ofNames file)

/-- What a rule looks at in a file, in each of its passes over the files. -/
def topics : Rule → List (SourceFile → List Topic)
  | layerDependency => [ofImports .layerViolation]
  | interfaceConvention => [InterfaceConvention.topics]
  | repositoryPattern =>
    [ofInterfaces .repositoryLocation, ofClassPairs .repositoryLocation .repositoryDi]
  | servicePattern =>
    [fun file => ofInterfaces .serviceLocation file ++ ofClasses .serviceDi file]
  | errorInheritance => [ofClassPairs .errorInheritance .useDomainError]
  | typeQuality => [fun file => [whole .anyType file]]

/-- The rule on dependencies goes by the imports of a file. -/
theorem LayerDependency.ordered_fileFindings (c : Classifier) (file : SourceFile) :
    Ordered (fileFindings c file) (ofImports .layerViolation file) := by
  unfold fileFindings
  split
  · exact .nil
  next own hown =>
    rw [List.filterMap_eq_flatMap_toList]
    refine .flatMap_map fun i _ => ?_
    unfold importFinding?
    split
    · exact .nil
    next other hother =>
      split
      · refine .cons ⟨rfl, rfl, rfl, .quoted i.specifier (own.segment ++
          " layer cannot depend on " ++ other.segment ++ " layer (import ") ")" ?_ rfl⟩ .nil
        change _ ++ (" layer (import " ++ "'") = _
        rw [← String.append_assoc]
      · exact .nil

/-- What is said of an interface's name. -/
theorem InterfaceConvention.ordered_namingFindings (file : SourceFile) (i : Interface) :
    Ordered (namingFindings file i) [ofInterface .interfaceNaming file i] :=
  have hname := Mentions.quoted i.name "Interface " " should be prefixed with 'I' (e.g. 'I" rfl rfl
  ordered_ite ⟨rfl, rfl, rfl, (hname.append i.name).append "')"⟩

/-- What is said of the name of an interface's file. -/
theorem InterfaceConvention.ordered_fileNamingFindings (file : SourceFile) (i : Interface) :
    Ordered (fileNamingFindings file i) [ofInterface .fileNaming file i] := by
  refine ordered_ite ⟨rfl, rfl, rfl, .quoted i.name
    ("File '" ++ file.baseName ++ "' should be named after its interface ") "" ?_ rfl⟩
  change _ ++ ("' should be named after its interface " ++ "'") = _
  rw [← String.append_assoc]

/-- Of an interface that is not the only one, its own name is looked at. -/
theorem InterfaceConvention.ordered_ofNames (file : SourceFile) (i : Interface) :
    Ordered (namingFindings file i) (ofNames file i) := by
  rw [← List.append_nil (namingFindings file i)]
  exact (ordered_namingFindings file i).append .nil

/-- The rule on interfaces goes by the interfaces of a file. -/
theorem InterfaceConvention.ordered_fileFindings (file : SourceFile) :
    Ordered (fileFindings file) (topics file) := by
  unfold fileFindings
  split
  · exact .nil
  next i hone =>
    rw [topics, hone, List.take_succ_cons, List.take_zero, List.flatMap_singleton,
      ← List.append_nil (_ ++ _)]
    exact ((ordered_namingFindings file i).append (ordered_fileNamingFindings file i)).append .nil
  next i rest _ hseveral =>
    rw [topics, hseveral, List.take_succ_cons, List.take_zero, List.flatMap_singleton]
    exact (ordered_ofNames file i).append (.cons (isOf_whole _ _ _)
      (.flatMap fun other _ => ordered_ofNames file other))

/-- The first pass over repositories goes by the contracts of a file. -/
theorem RepositoryPattern.ordered_contractsOf (c : Classifier) (file : SourceFile) :
    Ordered (contractsOf c file) (ofInterfaces .repositoryLocation file) := by
  refine .of_sublist (List.filter_sublist.flatMap _) (.flatMap_map fun i _ => ?_)
  exact ordered_ite ⟨rfl, rfl, rfl, .opening_quoted i.name
    " should be declared in the domain layer" rfl⟩

/-- The second pass over repositories goes by the classes of a file. -/
theorem RepositoryPattern.ordered_repositoriesOf (c : Classifier) (file : SourceFile) :
    Ordered (repositoriesOf c file) (ofClassPairs .repositoryLocation .repositoryDi file) := by
  have hplace (k : Class) :
      Ordered (placeFindings c file k) [ofClass .repositoryLocation file k] :=
    have hname := Mentions.opening_quoted k.name " should live in infrastructure/" rfl
    ordered_ite ⟨rfl, rfl, rfl, hname.append directory⟩
  have hconstructor (k : Class) :
      Ordered (constructorFindings file k) [ofClass .repositoryDi file k] :=
    ordered_ite ⟨rfl, rfl, rfl, .quoted k.name "Repository "
      " should receive its dependencies through a constructor" rfl rfl⟩
  exact .of_sublist (List.filter_sublist.flatMap _)
    (.flatMap fun k _ => (hplace k).append (hconstructor k))

/-- The rule on services goes by the contracts and then by the classes of a file. -/
theorem ServicePattern.ordered_fileFindings (c : Classifier) (file : SourceFile) :
    Ordered (fileFindings c file)
      (ofInterfaces .serviceLocation file ++ ofClasses .serviceDi file) := by
  refine .append (.of_sublist (List.filter_sublist.flatMap _) (.flatMap_map fun i _ => ?_))
    (.of_sublist (List.filter_sublist.flatMap _) (.flatMap_map fun k _ => ?_))
  · exact ordered_ite ⟨rfl, rfl, rfl, .quoted i.name "Service interface "
      " should be declared in the application layer" rfl rfl⟩
  · exact ordered_ite ⟨rfl, rfl, rfl, .quoted k.name "Service "
      " should receive its dependencies through a constructor" rfl rfl⟩

/-- The rule on error classes goes by the classes of a file. -/
theorem ErrorInheritance.ordered_fileFindings (c : Classifier) (file : SourceFile) :
    Ordered (fileFindings c file) (ofClassPairs .errorInheritance .useDomainError file) := by
  refine .of_sublist (List.filter_sublist.flatMap _) (.flatMap fun k _ => ?_)
  simp only [classFindings]
  split
  · have hname := Mentions.quoted k.name "Error class " " must extend " rfl rfl
    exact .cons ⟨rfl, rfl, rfl, ((hname.append domainBase).append " or ").append nativeBase⟩ .nil
  · split
    · have hname := Mentions.quoted k.name "Domain error " " should extend " rfl rfl
      exact .cons_right (.cons ⟨rfl, rfl, rfl,
        ((hname.append domainBase).append " instead of ").append nativeBase⟩ .nil)
    · exact .nil

/-- The rule on annotations says one thing of a file at most. -/
theorem TypeQuality.ordered_fileFindings (file : SourceFile) :
    Ordered (fileFindings file) [whole .anyType file] := by
  unfold fileFindings
  split
  · exact .nil
  · exact .cons (isOf_whole _ _ _) .nil

/-- In each of its passes a rule goes over a file by the topics of that pass. -/
theorem forall₂_passes_topics (c : Classifier) (r : Rule) :
    List.Forall₂ (fun pass topics => ∀ file, Ordered (pass file) (topics file))
      (r.passes c) r.topics := by
  cases r with
  | layerDependency => exact .cons (LayerDependency.ordered_fileFindings c) .nil
  | interfaceConvention => exact .cons InterfaceConvention.ordered_fileFindings .nil
  | repositoryPattern =>
    exact .cons (RepositoryPattern.ordered_contractsOf c)
      (.cons (RepositoryPattern.ordered_repositoriesOf c) .nil)
  | servicePattern => exact .cons (ServicePattern.ordered_fileFindings c) .nil
  | errorInheritance => exact .cons (ErrorInheritance.ordered_fileFindings c) .nil
  | typeQuality => exact .cons TypeQuality.ordered_fileFindings .nil

/-- What a rule states of files keeps to the order of its topics: pass by pass, file by file. -/
theorem ordered_findings (c : Classifier) (files : List SourceFile) (r : Rule) :
    Ordered (r.findings c files) (r.topics.flatMap fun topics => files.flatMap topics) := by
  rw [findings_eq_flatMap_passes]
  have h := forall₂_passes_topics c r
  generalize r.passes c = passes at h
  generalize r.topics = topics at h
  induction h with
  | nil => exact .nil
  | cons hpass _ ih =>
    rw [List.flatMap_cons, List.flatMap_cons]
    exact .append (.flatMap fun file _ => hpass file) ih

end Rule

end LayerAudit
