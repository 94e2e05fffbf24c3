import LayerAudit.Syntax.Grammar
import LayerAudit.Syntax.Scan

/-!
# Contextual tokens

Some tokens cannot be told from the characters alone: a semicolon that the line break stands for,
the text of a template, the question mark of a conditional expression. They are read only where the
parser expects them, by the rules of this module. A null character ends each of them, as the end of
the text does.
-/

namespace LayerAudit.Syntax

/-- The tokens whose reading depends on what the parser expects. -/
inductive Contextual where
  | semicolon
  | templateText
  | ternaryMark
  | htmlComment
  deriving DecidableEq, Repr

namespace Contextual

/-- The blanks between tokens: tab to carriage return, and space. -/
def isBlank (c : Char) : Bool := c = ' ' || (decide ('\t' ≤ c) && decide (c ≤ '\r'))

/-- The ends of a line, as comments see them. -/
def isLineEnd (c : Char) : Bool := c = '\n' || c = '\u2028' || c = '\u2029'

/-- The rest of a line: everything up to its end or a null character. -/
def isLineRest (c : Char) : Bool := !isLineEnd c && c != '\x00'

/-- What a rule found, and the scan as the rule leaves it. -/
abbrev Outcome := Option Contextual × Scan

/-- Text of a template up to a substitution, an escape or the closing quote; an empty text counts
as none. The number bounds the characters still to be read. -/
def readTemplateText (seen : Bool) : Nat → Scan → Outcome
  | 0, s => (none, s)
  | limit + 1, s =>
    let s := s.setMark
    let found := if seen then some Contextual.templateText else none
    match s.peek with
    | '\x60' | '\\' => (found, s)
    | '\x00' => (none, s)
    | '$' =>
      let s := s.advance
      if s.peek = '\x7b' then (found, s) else readTemplateText true limit s
    | _ => readTemplateText true limit s.advance

/-- Drops a block comment whose opening has been read; tells whether it is closed. -/
def skipBlockComment : Nat → Scan → Bool × Scan
  | 0, s => (false, s)
  | limit + 1, s =>
    match s.peek with
    | '\x00' => (false, s)
    | '*' =>
      let s := s.skip
      if s.peek = '/' then (true, s.skip) else skipBlockComment limit s
    | _ => skipBlockComment limit s.skip

/-- What lies between two tokens. -/
structure Gap where
  /-- Clear if the gap ends at a slash that opens no comment. -/
  clear : Bool
  /-- Whether the gap holds a comment. -/
  commented : Bool
  scan : Scan

/-- Drops blanks and comments. -/
def skipGap (commented : Bool) : Nat → Scan → Gap
  | 0, s => ⟨true, commented, s⟩
  | limit + 1, s =>
    let s := s.skipWhile isBlank
    if s.peek = '/' then
      let s := s.skip
      match s.peek with
      | '/' => skipGap true limit (s.skip.skipWhile isLineRest)
      | '*' =>
        let (closed, s) := skipBlockComment (s.remaining + 1) s.skip
        skipGap (commented || closed) limit s
      | _ => ⟨false, commented, s⟩
    else ⟨true, commented, s⟩

/-- Drops a given text; tells whether all of it was there. -/
def skipWord : List Char → Scan → Bool × Scan
  | [], s => (true, s)
  | c :: rest, s => if s.peek = c then skipWord rest s.skip else (false, s)

/-- Whether the first token of a line leaves room for a semicolon before it: not if it continues
the expression of the line above. -/
def startsStatement (expected : Expectation) (s : Scan) : Bool × Scan :=
  match s.peek with
  | '\x60' | ',' | '.' | ';' | '*' | '%' | '>' | '<' | '=' | '?' | '^' | '|' | '&' | '/' | ':' =>
    (false, s)
  | '\x7b' => (!expected.signatureSemicolon, s)
  | '(' | '[' => (!expected.logicalOr, s)
  | '+' => let s := s.skip; (s.peek = '+', s)
  | '-' => let s := s.skip; (s.peek = '-', s)
  | '!' => let s := s.skip; (s.peek != '=', s)
  | 'i' =>
    let s := s.skip
    if s.peek = 'n' then
      let s := s.skip
      if !s.peek.isAlpha then (false, s)
      else
        let (whole, s) := skipWord "stanceof".toList s
        (!whole || s.peek.isAlpha, s)
    else (true, s)
  | _ => (true, s)

/-- A semicolon that a line break, a closing brace or the end of the text stands for. Also tells
whether a comment was passed. -/
def impliedSemicolon (expected : Expectation) (s : Scan) : Bool × Bool × Scan :=
  let s := s.setMark.skipWhile fun c => isBlank c && c != '\n'
  match s.peek with
  | '\x00' => (true, false, s)
  | '\x7d' =>
    let s := s.skip.skipWhile isBlank
    (s.peek != ':' || expected.logicalOr, false, s)
  | '\n' =>
    let gap := skipGap false (s.remaining + 1) s.skip
    if gap.clear then
      let (implied, s) := startsStatement expected gap.scan
      (implied, gap.commented, s)
    else (false, gap.commented, gap.scan)
  | _ => (false, false, s)

/-- The question mark of a conditional expression, as opposed to that of an optional member. -/
def readTernaryMark (s : Scan) : Outcome :=
  let s := s.skipWhile isBlank
  if s.peek != '?' then (none, s)
  else
    let s := s.advance
    if s.peek = '?' || s.peek = '.' then (none, s)
    else
      let s := s.setMark.advanceWhile isBlank
      match s.peek with
      | ':' | ')' | ',' => (none, s)
      | '.' =>
        let s := s.advance
        (if s.peek.isDigit then some .ternaryMark else none, s)
      | _ => (some .ternaryMark, s)

/-- Goes over a given text; tells whether all of it was there. -/
def advanceWord : List Char → Scan → Bool × Scan
  | [], s => (true, s)
  | c :: rest, s => if s.peek = c then advanceWord rest s.advance else (false, s)

/-- A line that starts like a comment of a web page. -/
def readHtmlComment (s : Scan) : Outcome :=
  let s := s.skipWhile fun c => isBlank c || isLineEnd c
  let opening := if s.peek = '<' then "<!--" else "-->"
  let (whole, s) := advanceWord opening.toList s
  if whole then
    let s := s.advanceWhile isLineRest
    (some .htmlComment, s.setMark)
  else (none, s)

/-- Reads the contextual token that is expected here, if it is there. -/
def read (expected : Expectation) (s : Scan) : Outcome :=
  if expected.templateText then
    if expected.semicolon then (none, s) else readTemplateText false (s.remaining + 1) s
  else if expected.semicolon || expected.signatureSemicolon then
    let (implied, commented, s) := impliedSemicolon expected s
    if implied then (some .semicolon, s)
    else if !commented && expected.ternaryMark && s.peek = '?' then readTernaryMark s
    else (none, s)
  else if expected.ternaryMark then readTernaryMark s
  else if expected.htmlComment && !expected.logicalOr && !expected.escape && !expected.regex then
    readHtmlComment s
  else (none, s)

end Contextual

end LayerAudit.Syntax
