import LayerAudit.Facts.Extract
import LayerAudit.Syntax.Tree

/-!
# Facts of TypeScript sources

The facts of a source are those of its syntax tree.
-/

namespace LayerAudit

/-- Reads the facts of a TypeScript source; fails at the first syntax error. -/
def Facts.ofTypeScript (source : String) : Except SyntaxFault Facts :=
  (Syntax.TypeScript.tree source).readFacts source

end LayerAudit
