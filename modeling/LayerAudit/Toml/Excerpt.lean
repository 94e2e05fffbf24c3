import LayerAudit.Toml.Value

/-!
# Excerpts

How a stretch of a document is shown: the place where it starts, its line, and a row of marks under
it. Lines and columns are counted from one, columns in characters.
-/

namespace LayerAudit

/-- The place where a stretch of text starts. -/
structure Excerpt where
  /-- The number of lines before. -/
  line : Nat
  /-- The number of characters before, on its line. -/
  column : Nat
  /-- The whole line. -/
  content : String
  /-- The number of marks under it. -/
  marks : Nat
  deriving DecidableEq, Repr

namespace Excerpt

/-- The characters that lie in the first bytes of a text. -/
def firstBytes : List Char → Nat → List Char
  | [], _ => []
  | c :: rest, count =>
    if count < c.utf8Size then [] else c :: firstBytes rest (count - c.utf8Size)

/-- The excerpt of a text for a stretch of it. It reaches to the end of the line at most, and has at
least one mark. -/
def ofSpan (text : String) (span : Span) : Excerpt :=
  let before := firstBytes text.toList span.start
  let behind := text.toList.drop before.length
  let start := (before.reverse.takeWhile (· != '\n')).reverse
  let content := String.ofList (start ++ behind.takeWhile (· != '\n'))
  let room := content.utf8ByteSize - start.length
  { line := before.count '\n'
    column := start.length
    content
    marks := max 1 (min (span.stop - span.start) room) }

/-- A row of one character. -/
def row (c : Char) (count : Nat) : String := String.ofList (List.replicate count c)

/-- The excerpt as lines of text, with line breaks at the ends of all of them. -/
def render (e : Excerpt) : String :=
  let number := toString (e.line + 1)
  let margin := row ' ' (number.length + 1) ++ "|"
  "TOML parse error at line " ++ number ++ ", column " ++ toString (e.column + 1) ++ "\n" ++
    margin ++ "\n" ++
    number ++ " | " ++ e.content ++ "\n" ++
    margin ++ row ' ' (e.column + 1) ++ row '^' e.marks ++ "\n"

end Excerpt

end LayerAudit
