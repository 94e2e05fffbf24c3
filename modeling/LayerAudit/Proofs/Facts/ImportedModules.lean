import LayerAudit.Proofs.Facts.DocumentOrder
import LayerAudit.Proofs.Text.Trim
import Mathlib.Data.String.Basic

/-!
# Modules that imports name

An import names its module by a string literal, which is written between two quotes of one kind. What is
recorded of it is the literal's text without the quote characters at its ends, of whatever kind and however
many there are.

Main statement: the module recorded is the content of the literal exactly if the content has no quote
character at its ends, and two imports are recorded with one module exactly if their contents are the same
but for such characters. Which contents a literal may have is left open: nothing is asked of them here.
-/

namespace LayerAudit

/-- The quotes that a string literal is written between. -/
inductive Delimiter where
  | single
  | double
  deriving DecidableEq, Repr

def Delimiter.char : Delimiter → Char
  | single => '\''
  | double => '"'

/-- A string literal. -/
structure Literal where
  delimiter : Delimiter
  /-- What stands between the quotes, as written. -/
  content : List Char

/-- The characters of a literal. -/
def Literal.chars (l : Literal) : List Char :=
  [l.delimiter.char] ++ l.content ++ [l.delimiter.char]

namespace Syntax.Node

open Text

/-- Whether a node's text is some characters at a place in a source. -/
def Spells (source : String) (n : Node) (cs : List Char) : Prop :=
  ∃ before after, source = String.ofList (before ++ cs ++ after) ∧
    n.label.start = String.utf8Len before ∧
    n.label.stop = String.utf8Len before + String.utf8Len cs

/-- Whether a node is an import statement that names its module by a literal. -/
structure ImportsLiteral (source : String) (n : Node) (l : Literal) : Prop where
  kind : n.kind = "import_statement"
  literal : ∃ part, n.child? .source = some part ∧ part.Spells source l.chars

/-- A node that spells characters has them for its text. -/
theorem Spells.text_eq {source : String} {n : Node} {cs : List Char} (h : n.Spells source cs) :
    n.text source = String.ofList cs := by
  obtain ⟨before, after, rfl, hstart, hstop⟩ := h
  rw [text, hstart, hstop]
  exact String.extract_of_valid before cs after

/-- The mark of a delimiter is a quote. -/
theorem isQuote_char (d : Delimiter) : isQuote d.char = true := by
  cases d <;> rfl

/-- Without the quote characters at their ends, a literal and its content are the same. -/
theorem trimWhere_chars (l : Literal) : trimWhere isQuote l.chars = trimWhere isQuote l.content := by
  apply trimWhere_append
  · simp [isQuote_char]
  · simp [isQuote_char]

/-- An import that names its module by a literal is recorded with the literal's content, less the quote
characters at its ends. -/
theorem ImportsLiteral.import?_eq {source : String} {n : Node} {l : Literal}
    (h : n.ImportsLiteral source l) :
    n.import? source = some ⟨n.line, String.ofList (trimWhere isQuote l.content)⟩ := by
  obtain ⟨part, hpart, hspells⟩ := h.literal
  rw [import?, if_pos h.kind, hpart, Option.map_some, hspells.text_eq, String.toList_ofList,
    trimWhere_chars]

/-- An import is recorded at its line. The module recorded is the content of its literal without the quote
characters at the ends, so it is the content itself exactly if there are none, and it is that of another
import, in this source or in another one, exactly if the contents of both come to the same without them. -/
theorem module_eq_content_iff {source other : String} {n m : Node} {l k : Literal}
    (hn : n.ImportsLiteral source l) (hm : m.ImportsLiteral other k) :
    ∃ i j, n.import? source = some i ∧ m.import? other = some j ∧
      i.line = n.label.row + 1 ∧
      (i.specifier.toList = l.content ↔ HasBareEnds isQuote l.content) ∧
      (i.specifier = j.specifier ↔
        ∃ core, IsTrimmed isQuote l.content core ∧ IsTrimmed isQuote k.content core) := by
  refine ⟨_, _, hn.import?_eq, hm.import?_eq, rfl, ?_, ?_⟩
  · rw [String.toList_ofList, trimWhere_eq_self_iff]
  · simp only [String.ofList_inj, ← trimWhere_eq_iff, exists_eq_left']
    exact eq_comm

/-- Two literals that differ in a quote at the end of their content: both imports are recorded with the
same module, which is the content of the second literal but not of the first. -/
theorem module_eq_content_iff_quoted :
    let source := "import a from \"./'b'\";\nimport c from \"./'b\";\n"
    let node (kind : String) (roles : List Role) (row start stop : ℕ) (children : List Node) : Node :=
      mk ⟨kind, true, .sound, false, roles, row, start, stop⟩ children
    let first := node "import_statement" [] 0 0 22 [node "string" [.source] 0 14 21 []]
    let second := node "import_statement" [] 1 23 44 [node "string" [.source] 1 37 43 []]
    let quoted : Literal := ⟨.double, "./'b'".toList⟩
    let half : Literal := ⟨.double, "./'b".toList⟩
    first.ImportsLiteral source quoted ∧ second.ImportsLiteral source half ∧
      ∃ i j, first.import? source = some i ∧ second.import? source = some j ∧
        i.specifier.toList ≠ quoted.content ∧ i.specifier = j.specifier := by
  intro source node first second quoted half
  have hfirst : first.ImportsLiteral source quoted :=
    ⟨rfl, _, rfl, "import a from ".toList, ";\nimport c from \"./'b\";\n".toList, by decide, by decide,
      by decide⟩
  have hsecond : second.ImportsLiteral source half :=
    ⟨rfl, _, rfl, "import a from \"./'b'\";\nimport c from ".toList, ";\n".toList, by decide, by decide,
      by decide⟩
  obtain ⟨i, j, hi, hj, -, hcontent, hsame⟩ := module_eq_content_iff hfirst hsecond
  refine ⟨hfirst, hsecond, i, j, hi, hj, ?_, ?_⟩
  · rw [Ne, hcontent]
    exact fun hbare => absurd (hbare.2 '\'' rfl) (by decide)
  · rw [hsame]
    simp only [← trimWhere_eq_iff]
    exact ⟨_, rfl, by decide⟩

end Syntax.Node

end LayerAudit
