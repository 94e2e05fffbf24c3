/-!
# Extents of source text

A length in a source text is counted twice: in bytes, which locate text, and in rows, which locate
it for a reader. Only a line feed ends a row. The distance from the start of the text is an extent
too, so positions and lengths share one type.
-/

namespace LayerAudit.Syntax

/-- A stretch of source text, measured in bytes and in the line feeds it holds. -/
structure Extent where
  bytes : Nat
  rows : Nat
  deriving DecidableEq, Repr, Inhabited

namespace Extent

/-- The empty stretch, and the position at which every text starts. -/
def zero : Extent := ⟨0, 0⟩

instance : Add Extent where
  add a b := ⟨a.bytes + b.bytes, a.rows + b.rows⟩

instance : Sub Extent where
  sub a b := ⟨a.bytes - b.bytes, a.rows - b.rows⟩

/-- The position behind one character. -/
def next (position : Extent) (c : Char) : Extent :=
  ⟨position.bytes + c.utf8Size, if c = '\n' then position.rows + 1 else position.rows⟩

end Extent

end LayerAudit.Syntax
