import LayerAudit.Syntax.Node

/-!
# Grammars as tables

A grammar is held in the form in which a bottom-up parser consults it: for each parser state, what
to do at each terminal and where each nonterminal leads; for each lexer state, where each class of
characters leads. A cell of the parser's table may list several actions, and the parser then follows
all of them. State 0 is the state of a parser that has lost its place and state 1 the one in which a
text starts; a table that gives no target for a nonterminal leads to state 0.
-/

namespace LayerAudit.Syntax

/-- A terminal, nonterminal or alias, by its place in the grammar's list of symbols. -/
abbrev Symbol := Nat

/-- How a symbol shows in a finished tree. -/
structure SymbolInfo where
  name : String
  /-- Clear for symbols whose children show in their place. -/
  visible : Bool
  named : Bool
  deriving Repr, Inhabited

/-- One role of a production: the child at `child` plays it, or some node inside that child does. -/
structure RoleRule where
  role : Role
  child : Nat
  inherited : Bool
  deriving Repr, Inhabited

/-- What a production adds to the symbols of its right side. -/
structure Production where
  /-- The name under which each child shows; 0 where it keeps its own. -/
  aliases : Array Symbol
  /-- Sorted by role and then by child. -/
  roles : List RoleRule
  deriving Repr, Inhabited

/-- One thing that a parser may do at a terminal. -/
inductive Action where
  | accept
  /-- Takes the token and enters a state. A repeating shift only stands in for a reduction. -/
  | shift (target : Nat) (repeating : Bool)
  /-- Takes the token as one that may stand anywhere, such as a comment. -/
  | shiftExtra
  /-- Takes the token as text to be skipped. -/
  | recover
  | reduce (symbol : Symbol) (count : Nat) (precedence : Int) (production : Nat)
  deriving DecidableEq, Repr, Inhabited

/-- The contextual tokens, and hints about context, that a parser state can do with. -/
structure Expectation where
  semicolon : Bool
  templateText : Bool
  ternaryMark : Bool
  htmlComment : Bool
  logicalOr : Bool
  escape : Bool
  regex : Bool
  signatureSemicolon : Bool
  deriving DecidableEq, Repr, Inhabited

/-- How tokens are read in a parser state. -/
structure Mode where
  /-- The lexer state that reading starts in. -/
  lexState : Nat
  expectation : Expectation
  deriving DecidableEq, Repr, Inhabited

/-- A state of the lexer: what is recognised so far, and where a character leads. -/
structure LexState where
  accepts : Option Symbol
  atEnd : Option Nat
  /-- By character class: the next state, and whether the character is blank before the token. -/
  moves : Array (Option (Nat × Bool))
  deriving Repr, Inhabited

/-- A language, as the tables that a parser of it consults. -/
structure Grammar where
  symbols : Array SymbolInfo
  /-- Symbols below this bound are terminals. -/
  terminalCount : Nat
  productions : Array Production
  /-- By parser state. -/
  modes : Array Mode
  /-- By parser state and symbol: 0 for nothing, `s + 1` for moving to state `s` alone, and beyond
  those the entries of `actionLists`. -/
  rows : Array (Array Nat)
  actionLists : Array (List Action)
  /-- Ascending: each class holds the codes below its bound and not below an earlier one. -/
  classes : List (Nat × Nat)
  lexStates : Array LexState
  /-- Words with a meaning of their own where the parser can use it. -/
  keywords : List (String × Symbol)
  deriving Inhabited

namespace Symbol

/-- The end of the text. -/
def endOfText : Symbol := 0

/-- A word, before it is compared with the keywords. -/
def word : Symbol := 1

end Symbol

namespace Grammar

/-- The symbol of a run of text skipped while the parser is lost; it never shows. -/
def skipped (g : Grammar) : Symbol := g.symbols.size

/-- The symbol of a node that wraps text that fits nowhere. -/
def unexpected (g : Grammar) : Symbol := g.symbols.size + 1

/-- Whether a symbol stands for text that fits nowhere. -/
def isFault (g : Grammar) (symbol : Symbol) : Bool :=
  decide (g.symbols.size ≤ symbol)

/-- How a symbol shows, for every symbol. -/
def info (g : Grammar) (symbol : Symbol) : SymbolInfo :=
  if symbol = g.unexpected then ⟨"ERROR", true, true⟩
  else g.symbols.getD symbol ⟨"", false, false⟩

/-- What a production adds; the first one adds nothing. -/
def production (g : Grammar) (i : Nat) : Production := g.productions.getD i ⟨#[], []⟩

/-- The name under which the child at a place shows, if it is not its own. -/
def aliasAt (g : Grammar) (production child : Nat) : Option Symbol :=
  match (g.production production).aliases.getD child 0 with
  | 0 => none
  | symbol => some symbol

/-- How tokens are read in a parser state. -/
def mode (g : Grammar) (state : Nat) : Mode := g.modes.getD state default

/-- The table's cell for a state and a symbol. -/
def cell (g : Grammar) (state : Nat) (symbol : Symbol) : Nat :=
  (g.rows.getD state #[]).getD symbol 0

/-- What the parser may do in a state at a terminal. -/
def actions (g : Grammar) (state : Nat) (symbol : Symbol) : List Action :=
  match g.cell state symbol with
  | 0 => []
  | code + 1 =>
    if code < g.rows.size then [.shift code false]
    else g.actionLists.getD (code - g.rows.size) []

/-- Whether the parser can do anything in a state at a terminal. -/
def acts (g : Grammar) (state : Nat) (symbol : Symbol) : Bool := g.cell state symbol != 0

/-- The state that a symbol leads to; 0 if it leads nowhere. -/
def target (g : Grammar) (state : Nat) (symbol : Symbol) : Nat :=
  if symbol < g.terminalCount then
    match (g.actions state symbol).getLast? with
    | some (.shift next _) => next
    | some .shiftExtra => state
    | _ => 0
  else g.cell state symbol - 1

/-- Whether a terminal completes some construct in a state. -/
def reducesAt (g : Grammar) (state : Nat) (symbol : Symbol) : Bool :=
  match (g.actions state symbol).head? with
  | some (.reduce ..) => true
  | _ => false

/-- The class of a character. -/
def classOf (g : Grammar) (c : Char) : Nat :=
  match g.classes.find? (fun entry => decide (c.toNat < entry.1)) with
  | some (_, cls) => cls
  | none => 0

/-- The keyword that a word spells. -/
def keyword? (g : Grammar) (word : String) : Option Symbol := g.keywords.lookup word

end Grammar

end LayerAudit.Syntax
