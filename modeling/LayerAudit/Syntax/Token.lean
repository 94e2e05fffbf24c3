import LayerAudit.Syntax.Contextual
import LayerAudit.Syntax.Fragment

/-!
# Tokens

Reading the token at a position. A contextual token that the parser expects comes first; otherwise
the lexer's automaton takes the longest token that it recognises. Where neither finds anything, all
tokens of the language are tried, and failing that, text is passed over up to the next token and
becomes one token of misplaced text.
-/

namespace LayerAudit.Syntax

namespace Token

/-- Runs the lexer from a state; tells the longest recognised symbol. The number bounds the
characters still to be read. -/
def recognise (g : Grammar) (found : Option Symbol) : Nat → Nat → Scan → Option Symbol × Scan
  | 0, _, s => (found, s)
  | limit + 1, state, s =>
    let here := g.lexStates.getD state default
    let (found, s) :=
      match here.accepts with
      | some symbol => (some symbol, s.setMark)
      | none => (found, s)
    if s.atEnd then
      match here.atEnd with
      | some next => recognise g found limit next s
      | none => (found, s)
    else
      match here.moves.getD (g.classOf s.peek) none with
      | some (next, blank) =>
        recognise g found limit next (if blank then s.skip else s.advance)
      | none => (found, s)

/-- What the parser brings to the reading of a token. -/
structure Request where
  source : String
  position : Extent
  /-- The parser's state. -/
  state : Nat
  /-- Whether text was read since the last fault. -/
  advanced : Bool

/-- Whether an empty contextual token is of use: not where the parser is lost or stands still. -/
def emptyIsUseful (g : Grammar) (r : Request) (lost : Bool) (symbol : Symbol) : Bool :=
  !lost && r.advanced && g.target r.state symbol != r.state

/-- The symbols of the contextual tokens in a grammar. -/
structure Symbols where
  semicolon : Symbol
  templateText : Symbol
  ternaryMark : Symbol
  htmlComment : Symbol

/-- The symbol of a contextual token. -/
def Symbols.of (symbols : Symbols) : Contextual → Symbol
  | .semicolon => symbols.semicolon
  | .templateText => symbols.templateText
  | .ternaryMark => symbols.ternaryMark
  | .htmlComment => symbols.htmlComment

/-- The contextual token at a scan's place, if one is expected and of use. -/
def contextual? (g : Grammar) (symbols : Symbols) (r : Request) (mode : Mode) (lost : Bool)
    (s : Scan) : Option (Symbol × Scan) :=
  let (found, t) := Contextual.read mode.expectation s.begin
  match found with
  | none => none
  | some kind =>
    let t := t.finish
    let symbol := symbols.of kind
    if t.stop.bytes ≤ s.here.bytes && !emptyIsUseful g r lost symbol then none
    else some (symbol, t)

/-- The token that a finished scan found. A word that spells a keyword is that keyword where the
parser can use it. -/
def ofScan (g : Grammar) (r : Request) (symbol : Symbol) (s : Scan) : Fragment :=
  let padding := s.start - r.position
  let size := s.stop - s.start
  if symbol = Symbol.word then
    match g.keyword? s.lexeme with
    | some keyword =>
      Fragment.token g (if g.acts r.state keyword then keyword else symbol) padding size r.state
        true
    | none => Fragment.token g symbol padding size r.state false
  else Fragment.token g symbol padding size r.state false

/-- Reads the next token. Once `misplaced` holds the bounds of passed-over text, that text becomes
the token as soon as another one starts. -/
def readFrom (g : Grammar) (symbols : Symbols) (r : Request) :
    Nat → Bool → Option (Extent × Extent) → Scan → Fragment
  | 0, _, _, s => Fragment.token g g.unexpected .zero (s.here - r.position) r.state false
  | limit + 1, lost, misplaced, s =>
    let mode := g.mode (if lost then 0 else r.state)
    let wrap (bounds : Extent × Extent) : Fragment :=
      Fragment.token g g.unexpected (bounds.1 - r.position) (bounds.2 - bounds.1) r.state false
    match contextual? g symbols r mode lost s with
    | some (symbol, t) =>
      match misplaced with
      | some bounds => wrap bounds
      | none => Fragment.token g symbol (t.start - r.position) (t.stop - t.start) r.state false
    | none =>
      let b := s.begin
      let (found, t) := recognise g none (b.remaining + 2) mode.lexState b
      let t := t.finish
      match found, misplaced with
      | some _, some bounds => wrap bounds
      | some symbol, none => ofScan g r symbol t
      | none, _ =>
        if !lost then readFrom g symbols r limit true none (Scan.startAt r.source r.position)
        else
          let bounds := misplaced.getD (t.start, t.start)
          if t.here.bytes = bounds.2.bytes then
            if t.atEnd then wrap bounds
            else
              let t := t.advance
              readFrom g symbols r limit true (some (bounds.1, t.here)) t
          else readFrom g symbols r limit true (some (bounds.1, t.here)) t

/-- Reads the token at a position. -/
def read (g : Grammar) (symbols : Symbols) (r : Request) : Fragment :=
  let s := Scan.startAt r.source r.position
  readFrom g symbols r (2 * s.remaining + 3) (r.state == 0) none s

end Token

end LayerAudit.Syntax
