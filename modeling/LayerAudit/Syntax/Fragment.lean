import LayerAudit.Syntax.Grammar

/-!
# Fragments of syntax trees

While a parse is under way it holds fragments: tokens, and constructs put together from fragments.
A fragment keeps every symbol of the grammar, also those that do not show in a finished tree, and
knows what the faults inside it cost. Where two readings of one text compete, the cheaper wins, then
the one that the grammar ranks higher, then the one whose symbols come later in the grammar.
-/

namespace LayerAudit.Syntax

/-- What a fragment says about itself. -/
structure FragmentInfo where
  symbol : Symbol
  /-- Blanks before the text. -/
  padding : Extent
  /-- The text. -/
  size : Extent
  /-- The parser state in which a token was read. -/
  readIn : Nat
  /-- The cost of the faults inside, an invented token's own apart. -/
  cost : Nat
  visible : Bool
  /-- Set for tokens that may stand anywhere and play no part in a production. -/
  extra : Bool
  /-- Set for a token that the text lacks. -/
  missing : Bool
  /-- Set for a word that spells a keyword, whether or not it is read as one. -/
  keyword : Bool
  production : Nat
  precedence : Int
  /-- The number of nodes that show directly below this one. -/
  visibleChildren : Nat
  /-- The number of nodes that show anywhere below this one. -/
  visibleBelow : Nat
  firstSymbol : Symbol
  firstReadIn : Nat
  deriving Repr, Inhabited

/-- A token, or a construct with its parts in source order. -/
inductive Fragment where
  | mk (info : FragmentInfo) (children : List Fragment)
  deriving Repr, Inhabited

namespace Fragment

/-- The prices of faults. -/
def costOfMissing : Nat := 610
/-- The price of each place where the parser lost its way. -/
def costOfRecovery : Nat := 500
/-- The price of a skipped construct. -/
def costOfSkippedNode : Nat := 100
/-- The price of a row of skipped text, beyond that of its bytes, which cost one each. -/
def costOfSkippedRow : Nat := 30

/-- What the fragment says about itself. -/
def info : Fragment → FragmentInfo
  | mk info _ => info

/-- The fragment's parts, in source order. -/
def children : Fragment → List Fragment
  | mk _ children => children

/-- The symbol that the fragment stands for. -/
def symbol (f : Fragment) : Symbol := f.info.symbol

/-- Whether the fragment plays no part in productions. -/
def extra (f : Fragment) : Bool := f.info.extra

/-- The text with the blanks before it. -/
def total (f : Fragment) : Extent := f.info.padding + f.info.size

/-- The cost of all faults inside. -/
def cost (f : Fragment) : Nat := if f.info.missing then costOfMissing else f.info.cost

/-- The number of nodes that the fragment adds to a tree. -/
def weight (g : Grammar) (f : Fragment) : Nat :=
  f.info.visibleBelow + (if f.info.visible then 1 else 0) +
    (if f.symbol = g.skipped then 1 else 0)

/-- A token. -/
def token (g : Grammar) (symbol : Symbol) (padding size : Extent) (readIn : Nat)
    (keyword : Bool) : Fragment :=
  .mk { symbol, padding, size, readIn, keyword
        cost := 0, visible := (g.info symbol).visible, extra := symbol = Symbol.endOfText
        missing := false, production := 0, precedence := 0, visibleChildren := 0, visibleBelow := 0
        firstSymbol := symbol, firstReadIn := readIn } []

/-- A token that the text lacks. -/
def invented (g : Grammar) (symbol : Symbol) : Fragment :=
  match token g symbol .zero .zero 0 false with
  | mk info children => .mk { info with missing := true } children

/-- The fragment as one that may, or may not, stand anywhere. -/
def withExtra (extra : Bool) : Fragment → Fragment
  | mk info children => .mk { info with extra := extra } children

/-- A keyword read as a plain word. -/
def asWord (g : Grammar) : Fragment → Fragment
  | mk info children =>
    .mk { info with
          symbol := Symbol.word, firstSymbol := Symbol.word
          visible := (g.info Symbol.word).visible } children

/-- The fragment with a production's rank added to its own. -/
def addPrecedence (precedence : Int) : Fragment → Fragment
  | mk info children => .mk { info with precedence := info.precedence + precedence } children

/-- What a construct gathers from its parts. -/
structure Tally where
  padding : Extent
  size : Extent
  cost : Nat
  precedence : Int
  visibleChildren : Nat
  visibleBelow : Nat
  /-- The number of parts so far that play a part in the production. -/
  place : Nat

/-- The price of holding a part in a construct that wraps misplaced text. -/
def skippedNodes (g : Grammar) (f : Fragment) : Nat :=
  if f.extra || (f.symbol = g.unexpected && f.children.isEmpty) then 0
  else if f.info.visible then costOfSkippedNode
  else if f.children.isEmpty then 0
  else costOfSkippedNode * f.info.visibleChildren

/-- Takes one part into account. -/
def Tally.add (g : Grammar) (symbol : Symbol) (production : Nat) (t : Tally) (f : Fragment) :
    Tally :=
  let aliased := !f.extra && f.symbol != Symbol.endOfText &&
    (g.aliasAt production t.place).isSome
  let shows := aliased || f.info.visible
  { padding := t.padding
    size := t.size + f.total
    cost := t.cost + (if f.symbol = g.skipped then 0 else f.cost) +
      (if g.isFault symbol then skippedNodes g f else 0)
    precedence := t.precedence + f.info.precedence
    visibleChildren := t.visibleChildren +
      (if shows then 1 else if f.children.isEmpty then 0 else f.info.visibleChildren)
    visibleBelow := t.visibleBelow + f.info.visibleBelow + (if shows then 1 else 0)
    place := if f.extra then t.place else t.place + 1 }

/-- A construct with given parts. -/
def construct (g : Grammar) (symbol : Symbol) (parts : List Fragment) (production : Nat) :
    Fragment :=
  let first := parts.head?
  let padding := (first.map (·.info.padding)).getD .zero
  let start : Tally := ⟨padding, .zero, 0, 0, 0, 0, 0⟩
  let t := parts.foldl (Tally.add g symbol production) start
  let size := t.size - padding
  .mk { symbol, padding, size, production
        readIn := 0, extra := false, missing := false, keyword := false
        cost := t.cost +
          (if g.isFault symbol then costOfRecovery + size.bytes + costOfSkippedRow * size.rows
           else 0)
        visible := (g.info symbol).visible
        precedence := t.precedence, visibleChildren := t.visibleChildren
        visibleBelow := t.visibleBelow
        firstSymbol := (first.map (·.info.firstSymbol)).getD 0
        firstReadIn := (first.map (·.info.firstReadIn)).getD 0 } parts

mutual

/-- Compares two readings symbol by symbol, outer constructs first. -/
def compare : Fragment → Fragment → Ordering
  | mk a as, mk b bs =>
    (Ord.compare a.symbol b.symbol).then
      ((Ord.compare as.length bs.length).then (compareAll as bs))

/-- Compares the parts of two readings from the left. -/
def compareAll : List Fragment → List Fragment → Ordering
  | a :: as, b :: bs => (compare a b).then (compareAll as bs)
  | _, _ => .eq

end

/-- Whether a reading gives way to another one of the same text. -/
def yieldsTo (f other : Fragment) : Bool :=
  if other.cost < f.cost then true
  else if f.cost < other.cost then false
  else if f.info.precedence < other.info.precedence then true
  else if other.info.precedence < f.info.precedence then false
  else if 0 < f.cost then true
  else compare f other == .gt

/-- The reading kept of a first one, if there is one, and a second. -/
def better (first : Option Fragment) (second : Fragment) : Fragment :=
  match first with
  | none => second
  | some f => if f.yieldsTo second then second else f

/-- Whether two fragments need not be told apart by what follows them. -/
def interchangeable : Option Fragment → Option Fragment → Bool
  | none, none => true
  | some a, some b =>
    a.symbol = b.symbol &&
      ((decide (0 < a.cost) && decide (0 < b.cost)) ||
        (a.info.padding.bytes = b.info.padding.bytes && a.info.size.bytes = b.info.size.bytes &&
          a.children.length = b.children.length && a.extra = b.extra))
  | _, _ => false

/-- The parts up to the last that is no extra, and the extras behind it. -/
def splitTrailingExtras (parts : List Fragment) : List Fragment × List Fragment :=
  let trailing := parts.reverse.takeWhile extra
  (parts.take (parts.length - trailing.length), trailing.reverse)

end Fragment

end LayerAudit.Syntax
