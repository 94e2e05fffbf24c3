import LayerAudit.Syntax.Grammar
import LayerAudit.Text.Packed

/-!
# Productions of the TypeScript grammar

What each kind of production adds to its right side: other names for some children, and the roles
that children play.
-/

namespace LayerAudit.Syntax.TypeScript

open Packed

/-- The productions: the counted names of the children, then counted roles, each by its number, the
child, and whether the role is that of a node inside the child. -/
private def productionText : String :=
  "001vB000000121001000023110111.B00000000131000001dC01dC10001cC000000000000000012201vB01ZC13201vB1320
0231000020XC020YC020vB0011100132001000010000000013200132000000001320013100131020ZC020dC232001000000
001320013200132000000000000020dC10101dC10001dC10001dC100020dC020fC0010000000013200030dCxB2320010023
20010300.B000300.B00000000001320000112100010103yB0.B01YC0000232000001120000100001000023300200001330
000000000001310013100101001000000020dC233001020dC233001000000133020vB133001330013300133001010023300
100020vB000000000000020dC101020dC1010300dC10201dC100000300.B00000300dC233002020dC00040dC0xB23300104
0dC0xB2330010000001230300dC23300200133001330011310242000020dC1010023300001vB24200000000013200102001
01001010010000100020dC2340010000134001020023400200000010200101000300.B00020dC10100020dC000300dC2340
020300dC234002020dC00050dC00xB23400100000010001vB100000300dC2340020300dC2340020013404000dC234003002
43001020dC10100234001020vB243001020vB0000135000010101dC10000001020010200101001010010100103001000023
50030000102001010010300000000000300dC235002000020100210200101101021300dC23500204000dC23500304000dC2
350030023500200114001330000136001360013600134001020010300102001020010200101001030010300001040010200
103000010400000004000.B04000dC23600300236003002360040000137001370013700135020vB10101dC2440000010100
0010300104001020010300103001030010400104001050010300104000023700400237005001380010400105001030300vB
1020010200104001040010400105001050010600104002380050023800604000vB103001030010500104001050010500105
001060010600106002390060010500106001060010600106001060"

/-- The role with a given number. -/
private def roleOf : Nat → Role
  | 0 => .name
  | 1 => .source
  | 2 => .declaration
  | 3 => .body
  | _ => .newName

/-- Reads one role of a production. -/
private def roleRule : Feed RoleRule := do
  let role ← next
  let child ← next
  return ⟨roleOf role, child, ← nextFlag⟩

/-- Reads one production. -/
private def production : Feed Production := do
  let aliases ← counted next
  return ⟨aliases, (← counted roleRule).toList⟩

/-- What each kind of production adds, by number. -/
def productions : Array Production := run productionText (many 308 production)

end LayerAudit.Syntax.TypeScript
