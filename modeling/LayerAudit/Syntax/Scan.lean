import LayerAudit.Syntax.Extent

/-!
# Scanning source text

A scan walks over a text one character at a time. It remembers where the token under way starts,
so that blanks before it can be dropped, and where the longest token recognised so far ends. At the
end of the text it shows a null character, and advancing leaves it where it is.
-/

namespace LayerAudit.Syntax

/-- A position in a text, with the bounds of the token under way. -/
structure Scan where
  source : String
  here : Extent
  /-- Where the token under way starts. -/
  start : Extent
  /-- Where the token recognised so far ends. -/
  mark : Option Extent
  deriving Inhabited

namespace Scan

/-- A scan that starts at a position of a text. -/
def startAt (source : String) (position : Extent) : Scan := ⟨source, position, position, none⟩

/-- Whether the whole text has been read. -/
def atEnd (s : Scan) : Bool := decide (s.source.utf8ByteSize ≤ s.here.bytes)

/-- The number of bytes that are left. -/
def remaining (s : Scan) : Nat := s.source.utf8ByteSize - s.here.bytes

/-- The next character; null at the end of the text. -/
def peek (s : Scan) : Char :=
  if s.atEnd then '\x00' else String.Pos.Raw.get s.source ⟨s.here.bytes⟩

/-- Goes over one character. -/
def advance (s : Scan) : Scan :=
  if s.atEnd then s else { s with here := s.here.next s.peek }

/-- Goes over one character and starts the token behind it. -/
def skip (s : Scan) : Scan :=
  let t := s.advance
  if s.atEnd then t else { t with start := t.here }

/-- Ends the token recognised so far at this place. -/
def setMark (s : Scan) : Scan := { s with mark := some s.here }

/-- Starts a token here. A byte order mark at the very start of the text is dropped. -/
def begin (s : Scan) : Scan :=
  let t := { s with start := s.here, mark := none }
  if t.here.bytes = 0 ∧ t.peek = '\ufeff' then t.skip else t

/-- Where the token ends; one without a mark ends here. -/
def stop (s : Scan) : Extent := s.mark.getD s.here

/-- Settles the bounds of the token: a token that ends before it starts is empty. -/
def finish (s : Scan) : Scan :=
  if s.stop.bytes < s.start.bytes then { s with start := s.stop, mark := some s.stop }
  else { s with mark := some s.stop }

/-- Applies a move while the next character passes a test, for a number of times at most. -/
def walk (move : Scan → Scan) (test : Char → Bool) : Nat → Scan → Scan
  | 0, s => s
  | limit + 1, s => if !s.atEnd && test s.peek then walk move test limit (move s) else s

/-- Goes over the characters that pass a test. -/
def advanceWhile (s : Scan) (test : Char → Bool) : Scan := s.walk advance test s.remaining

/-- Drops the characters that pass a test from the front of the token. -/
def skipWhile (s : Scan) (test : Char → Bool) : Scan := s.walk skip test s.remaining

/-- The text of the token. -/
def lexeme (s : Scan) : String :=
  String.Pos.Raw.extract s.source ⟨s.start.bytes⟩ ⟨s.stop.bytes⟩

end Scan

end LayerAudit.Syntax
