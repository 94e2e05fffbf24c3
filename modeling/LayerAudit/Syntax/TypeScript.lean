import LayerAudit.Syntax.TypeScript.Symbols
import LayerAudit.Syntax.TypeScript.Productions
import LayerAudit.Syntax.TypeScript.Actions
import LayerAudit.Syntax.TypeScript.States

/-!
# The TypeScript grammar

The tables of the language, put together.
-/

namespace LayerAudit.Syntax.TypeScript

/-- The grammar of TypeScript source files. -/
def grammar : Grammar where
  symbols := symbols
  terminalCount := terminalCount
  productions := productions
  modes := parserStates.1
  rows := parserStates.2
  actionLists := actionLists
  classes := classes
  lexStates := lexStates
  keywords := keywords

end LayerAudit.Syntax.TypeScript
