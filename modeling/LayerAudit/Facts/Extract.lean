import LayerAudit.Facts.Basic
import LayerAudit.Syntax.Node

/-!
# Facts from syntax trees

Which nodes of a syntax tree state a fact. Declarations are found at any depth: the facts of a file
are those of all nodes, in source order, outer nodes before those inside them. A tree with a fault
states no facts; what is reported of it is the first fault.
-/

namespace LayerAudit

namespace Syntax.Node

mutual

/-- A node and all nodes below it, outer nodes before those inside them. -/
def preorder : Node → List Node
  | mk label children => mk label children :: preorderAll children

/-- All nodes of some trees. -/
def preorderAll : List Node → List Node
  | [] => []
  | n :: rest => n.preorder ++ preorderAll rest

end

mutual

/-- The fault to report of a faulty tree: the first faulty child, if it is at fault itself, or else
the fault to report of that child. -/
def firstFault : Node → Node
  | mk label children => (firstFaultAmong children).getD (mk label children)

/-- The fault to report of the first faulty node of a list. -/
def firstFaultAmong : List Node → Option Node
  | [] => none
  | n :: rest =>
    if n.label.standing != .sound then some n
    else if n.faulty then some n.firstFault
    else firstFaultAmong rest

end

/-- What is reported of a faulty tree. -/
def fault (root : Node) : SyntaxFault :=
  let bad := root.firstFault
  ⟨bad.line, if bad.label.standing = .missing then some bad.kind else none⟩

/-- The characters that delimit a module specifier. -/
def isQuote (c : Char) : Bool := c = '"' || c = '\'' || c = '\x60'

/-- The import that a node states, if it is one that names a module. -/
def import? (source : String) (n : Node) : Option Import :=
  if n.kind = "import_statement" then
    (n.child? .source).map fun s =>
      ⟨n.line, String.ofList (Text.trimWhere isQuote (s.text source).toList)⟩
  else none

/-- The types that a clause of a class heading lists. -/
def typeRefs (source : String) (clause : Node) : List TypeRef :=
  (clause.namedChildren.filter fun t => t.kind != "type_arguments" && t.kind != "comment").map
    fun t => ⟨t.text source⟩

/-- The types that the clauses of a given kind in a class heading list. -/
def heritage (source clauseKind : String) (n : Node) : List TypeRef :=
  (n.children.filter (·.kind = "class_heritage")).flatMap fun h =>
    (h.namedChildren.filter (·.kind = clauseKind)).flatMap (typeRefs source)

/-- Whether a class body declares a constructor. -/
def declaresConstructor (source : String) (body : Node) : Bool :=
  body.namedChildren.any fun m =>
    m.kind = "method_definition" && ((m.child? .name).map (·.text source)) = some "constructor"

/-- The class that a node declares. -/
def class? (source : String) (n : Node) : Option Class :=
  if n.kind = "class_declaration" || n.kind = "abstract_class_declaration" then
    (n.child? .name).map fun name =>
      { name := name.text source
        line := n.line
        hasConstructor := ((n.child? .body).map (declaresConstructor source)).getD false
        bases := heritage source "extends_clause" n
        contracts := heritage source "implements_clause" n }
  else none

/-- The interface that a node declares. -/
def interface? (source : String) (n : Node) : Option Interface :=
  if n.kind = "interface_declaration" then
    (n.child? .name).map fun name => ⟨n.line, name.text source⟩
  else none

/-- The names that an exported declaration declares. -/
def declaredNames (source : String) (declaration : Node) : List String :=
  match declaration.child? .name with
  | some name => [name.text source]
  | none =>
    (declaration.namedChildren.filter (·.kind = "variable_declarator")).filterMap fun d =>
      (d.child? .name).map (·.text source)

/-- The name under which one entry of an export clause is exported. -/
def exportedAs (source : String) (specifier : Node) : Option String :=
  ((specifier.child? .newName).or (specifier.child? .name)).map (·.text source)

/-- The names that the export clauses of a statement list. -/
def clauseNames (source : String) (n : Node) : List String :=
  (n.children.filter (·.kind = "export_clause")).flatMap fun clause =>
    (clause.namedChildren.filter (·.kind = "export_specifier")).filterMap (exportedAs source)

/-- The names that an export statement exports. -/
def exportedNames (source : String) (n : Node) : List String :=
  match n.child? .declaration with
  | some declaration => declaredNames source declaration
  | none =>
    clauseNames source n ++ if n.children.any (·.kind = "default") then ["default"] else []

/-- The exports that a node states. -/
def exports (source : String) (n : Node) : List Export :=
  if n.kind = "export_statement" then (exportedNames source n).map fun name => ⟨n.line, name⟩
  else []

/-- The facts that the nodes of a tree state. -/
def facts (source : String) (root : Node) : Facts :=
  let nodes := root.preorder
  { imports := nodes.filterMap (import? source)
    exports := nodes.flatMap (exports source)
    classes := nodes.filterMap (class? source)
    interfaces := nodes.filterMap (interface? source) }

/-- The facts of a tree without fault, or the first fault. -/
def readFacts (source : String) (root : Node) : Except SyntaxFault Facts :=
  if root.faulty then .error root.fault else .ok (root.facts source)

end Syntax.Node

end LayerAudit
