import LayerAudit.Syntax.Extent

/-!
# Syntax trees

The tree that a parse gives to its readers. A node carries the kind of construct it stands for,
where its text lies, and which of its parent's roles it fills. Text that fits nowhere is wrapped in
an *unexpected* node; a token that had to be invented is a *missing* node. A tree without either is
the tree of a well-formed text.
-/

namespace LayerAudit.Syntax

/-- The part a child plays for its parent, for the parts that readers ask for. -/
inductive Role where
  | name
  | source
  | declaration
  | body
  | newName
  deriving DecidableEq, Repr, Inhabited

/-- Whether a node stands for text that belongs where it is. -/
inductive Standing where
  /-- The node fits the grammar. -/
  | sound
  /-- The node wraps text that fits nowhere. -/
  | unexpected
  /-- The node is a token that the text lacks. -/
  | missing
  deriving DecidableEq, Repr, Inhabited

/-- What a syntax node says about itself. -/
structure Label where
  /-- The grammar's name of the construct, or the token's own spelling. -/
  kind : String
  /-- Set for constructs, clear for bare punctuation and keywords. -/
  named : Bool
  standing : Standing
  /-- Set when a token invisible in the tree was invented inside this node. -/
  concealsMissing : Bool
  /-- The roles for which this node is its parent's answer. -/
  roles : List Role
  /-- The row, counted from zero, on which the node's text starts. -/
  row : Nat
  /-- The byte at which the node's text starts. -/
  start : Nat
  /-- The byte behind the node's text. -/
  stop : Nat
  deriving DecidableEq, Repr, Inhabited

/-- A node of a syntax tree with its children in source order. -/
inductive Node where
  | mk (label : Label) (children : List Node)
  deriving Repr, Inhabited

namespace Node

/-- What the node says about itself. -/
def label : Node → Label
  | mk label _ => label

/-- The node's children, in source order. -/
def children : Node → List Node
  | mk _ children => children

/-- The grammar's name of the construct. -/
def kind (n : Node) : String := n.label.kind

/-- Whether the node is a construct and not bare punctuation. -/
def named (n : Node) : Bool := n.label.named

/-- The children that are constructs. -/
def namedChildren (n : Node) : List Node := n.children.filter named

/-- The child that plays a given part. -/
def child? (n : Node) (role : Role) : Option Node :=
  n.children.find? (·.label.roles.contains role)

/-- The line on which the node starts, counted from one. -/
def line (n : Node) : Nat := n.label.row + 1

/-- The node's own text within the source that it was read from. -/
def text (source : String) (n : Node) : String :=
  String.Pos.Raw.extract source ⟨n.label.start⟩ ⟨n.label.stop⟩

mutual

/-- Whether a fault lies at the node or anywhere below it. -/
def faulty : Node → Bool
  | mk label children =>
    label.standing != .sound || label.concealsMissing || anyFaulty children

/-- Whether one of the nodes is faulty. -/
def anyFaulty : List Node → Bool
  | [] => false
  | n :: rest => n.faulty || anyFaulty rest

end

end Node

end LayerAudit.Syntax
