import LayerAudit.Path.Basic

/-!
# Layers

The layers of a project, which of them may depend on which, and how files and imports are assigned
to them. A file's layer is named by the first directory below the source root. A relative import has
the layer of the file that it leads to; any other import has the first layer whose name occurs in
it.
-/

namespace LayerAudit

/-- A layer of a project. -/
inductive Layer where
  /-- Entities and contracts; depends on no other layer. -/
  | domain
  /-- Use cases; may depend on the domain. -/
  | application
  /-- Adapters; may depend on the application and the domain. -/
  | infrastructure
  /-- Shared helpers; takes no part in the order of layers. -/
  | utils
  deriving DecidableEq, Repr, Inhabited

namespace Layer

/-- The layers, in the order in which import texts are searched for them. -/
def all : List Layer := [domain, application, infrastructure, utils]

/-- The directory that names a layer. -/
def segment : Layer → String
  | domain => "domain"
  | application => "application"
  | infrastructure => "infrastructure"
  | utils => "utils"

/-- The layer that a directory names. -/
def ofSegment? (segment : String) : Option Layer := all.find? (·.segment = segment)

/-- Whether a layer must not depend on another one. -/
def forbids : Layer → Layer → Bool
  | domain, application => true
  | domain, infrastructure => true
  | application, infrastructure => true
  | _, _ => false

/-- A layer's directory names it. -/
theorem ofSegment?_segment (l : Layer) : ofSegment? l.segment = some l := by cases l <;> decide

end Layer

/-- Whether a text occurs in another one. -/
def occursIn (needle : List Char) : List Char → Bool
  | [] => needle.isEmpty
  | c :: rest => needle.isPrefixOf (c :: rest) || occursIn needle rest

/-- The search finds a text exactly if it is a stretch of the other one. -/
theorem occursIn_iff_infix (needle cs : List Char) :
    occursIn needle cs = true ↔ needle <:+: cs := by
  induction cs with
  | nil => simp [occursIn]
  | cons c rest ih =>
    rw [occursIn, Bool.or_eq_true, ih, List.isPrefixOf_iff_prefix, List.infix_cons_iff]

/-- Whether an import names its module by a path from the importing file. -/
def isRelativeSpecifier (specifier : String) : Bool :=
  specifier = "." || specifier = ".." || "./".toList.isPrefixOf specifier.toList ||
    "../".toList.isPrefixOf specifier.toList

/-- The layer of a path in the tree below a source root. -/
def layerOf (path root : Path) : Option Layer :=
  match path.normalize.below? root.normalize with
  | some (.name first :: _) => Layer.ofSegment? first
  | _ => none

/-- Assigns layers in the tree below a source root. -/
structure Classifier where
  /-- The source root, with dots resolved. -/
  root : Path
  deriving DecidableEq, Repr, Inhabited

namespace Classifier

/-- The classifier for a source root. -/
def ofRoot (root : Path) : Classifier := ⟨root.normalize⟩

/-- The layer of a file. -/
def layerOfFile (c : Classifier) (path : Path) : Option Layer := layerOf path c.root

/-- The layer that an import leads to; none if it leads out of the project's layers. -/
def layerOfImport (c : Classifier) (specifier : String) (importer : Path) : Option Layer :=
  if isRelativeSpecifier specifier then
    layerOf ((importer.parent?.getD ⟨""⟩).join ⟨specifier⟩) c.root
  else Layer.all.find? fun l => occursIn l.segment.toList specifier.toList

/-- Whether a file of a layer lies in a directory of a given name anywhere below the layer's. -/
def inSubdirectory (c : Classifier) (path : Path) (layer : Layer) (directory : String) : Bool :=
  c.layerOfFile path = some layer &&
    match path.normalize.below? c.root with
    | some rest => (rest.dropLast.drop 1).any (·.text = directory)
    | none => false

end Classifier

end LayerAudit
