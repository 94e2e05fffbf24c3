import LayerAudit.Syntax.Grammar
import LayerAudit.Text.Packed

/-!
# Lexicon of the TypeScript grammar

The automaton that recognises tokens, the classes of characters it tells apart, and the ways of
reading that parser states choose from.
-/

namespace LayerAudit.Syntax.TypeScript

open Packed

/-- The character classes: each the distance of its first code from that of the class before, and
the class's number. -/
private def classText : String :=
  "00118213122411I215161718191A1B1C1D1E1F1G1H1I1J1K1L1M6N2O1P1Q1R1S1T1U1V1W11V2X11V1Y18Z11Y18a11Y12b11
c11d11e11f11g11h11i11j11k11l11m11n11o11p11q11r11s11t11u11v11w11x11y11z11_11.11W21X21Y21Z21a21b21c21
d21e21Y1X121Y1.k521Y1.h22CY1Sf22Y1521Y1l122Y1.y321Y1..f1g2WW2Y1.t721Y1"

/-- The lexer states: the accepted symbol and the state at the end of the text, one more than their
numbers, then counted runs of classes: the distance from the run before, one less than the length,
and the way, which is twice the next state, plus one, plus one more for blanks before the token. -/
private def lexStateText : String :=
  "02c122800J00v100500X200h100l100x100L00P00900b100F00d100X100f100Z202b200R00N00r100B00p100Z100f205d20
0T00z100V00j100d200.10Pd200D00n100H00t100810000650h220j2M5j210l220j21Pj202c122800J00v100500X200h100
l100x100L00P00900b100F00d100X100n200Z202b200R00N00r100B00p100Z100f205d200T00p200V00j100d200.10Pd200
D00n100H00t1008502E0t2C0r2802R0x200v2B01c20z2C00D00L01R0.2Q00R00S00e100j100k100l102I0X313Z3z302I0b3
A0d3l203F0h3B0f310j3m203H0n390l310p3h300o201R0r3j201R0t3i202A0x3G0v3k203R0z3g10.300X4x202R0b400Z4q2
02Q0d400f4_200Z300a30000B12j400h40Ej402l405j400h40W1j400p401j400n406j4f30020780d2B3d275d210p220d21P
d200r4k30DI0v410z402b280X500x410Z500t440.420X520x480b500Z580t4k306I0v413b290x470d550x480b520680d2B3
d275d210p220d21Pd2u30030211h21b2h2l30680j2B3j275j210l220j21Pj2001.10f5n203E0l540j570h5001.10n5v100p
201R0p5p100s201R0r5z400u201R0t5001I0v5k304K3Z390x470x550x4q100y201R0z5t100X300001O0.5u100Y300001O0X
6x100y100z100d201R0Z6_100e201R0b6_400f202R0d600f6w200h201R0h6r200d30230j4b20j4d300d301K2j6003K3l672
l695l6004K3n672n695n6K0p6g300003K3r672r695r6k303K3Z390x4D0x4003F0v610v623t6k303K3z4H0.4E0b5001K3z40
01K1x6001K2z6k300001K3b2004K3.672.695.6K0X7w100e30211j52Z2j50031Cl500Z70w1l5004K3b772b795b7K0d7Y200
t200v200c200001K3Z3b200q400p400Z200a200.100g201R0f7X200d301K2j4003K3j472j495j4003K3h772h795h7003K3j
772j795j7k305K3r672r670t415r670b5k302K3t6H0v6001K3t6k303K1x6J0X5E0b5k303K2z6I0Z5E0b5003K3l772l795l7
003K3n772n795n70051Cl500Z703l500p70r1l5003K3r772r795r7003K3t772t795t7W200003K3v772v795v7004K3j772j7
95j7M0x7003K3z772z795z7004K3n772n795n7M0j2e300003K3.772.795.7004K3t772t795t7M0d2003K3x772x795x7d306
80d2B3d275d210p220d21Pd2003K3j272j295j2003K3d272d295d202a122Y800f800v100500d210h800x100L00P00Z800l8
00F00n800X100p800Z202b200R00N00r800b800t800v800f205d200T00p200V10d200.10Pd200d800j800H00t100Y850080
1S0v2B00L00i200k201d20X4l201F0h3m201H0n3n202E0l540j5q200x200z30000c122y800J00v100X900d200h100l100x1
00L00P00900z800F00.800X100n200Z202b200R00N00r100B00p100Z100f205d200T00p200V00j100d200.10Pd200D00n10
0H00t100y8l202F0h3B0f3m202H0n390l300580j2M5j210l220j21Pj200V22a900f800v100X900d210h800x100L00P00Z80
0l800F00n800X100p800Z202b220r820v800f205d200T00p200V10d200.10Pd200D00b910t100a9k20000c122e900J00v10
0X900d200h100l100x100L00P00900z800F00.800X100n200Z202b200R00N00r100B00p100Z100f205d200T00p200V00j10
0d200.10Pd200d800f900H00t100e9k202R0z3g10.302c122i900J00v100X900d200.900r900x100L00P00j900l800F00n8
00n900p800Z202b200R00N00x900l900v900p900f205d200T00p200V00z900d200.10Pd200d800t900H00t100i9501E0XA8
01R0x2l101K3Z3z302I0b3A0ZAi201A0bAk202c20dA00X4x202R0b400fAq202Q0hA00f4j200o200p200y200d200e200f201
S0jAh200g20000V22mA10v100X900d210h800x100L10Z800pA00F00rA00nA00tA00Z202b210N00r810t800v800f205d200T
00p200V10d200.10Pd200D00j800H10mA002I0X313Z3l200m200002E0l540j500a122wA00f800v100X900d210h800x100L0
0P00Z800l800F00n800X100p800Z202b200R00N00r800b800t800xA00f205d200T00p200V10d200.10Pd200d800j800H00t
100wAz301I0b300Q22_A10v100X900d220x100L10Z800pA00F00rA00nA00tA00Z202b210N00r830f205d200T00p220d21Pd
200d800.A00H10_A001d20X400V22aB00J20d200.900r910L00P00j900l800F00n800bB00p840R00N00x900hB00v900dB15
d200T00p200V00z900d200.10PjB00d800fB00H10aB00V22aB00J20d200.900r910L00P00j900l800F00n800bB00p840R00
N00x900hB00v900dB15d200T00p200V00z900d200.10Pd200d800fB00H10aBl100002I0b3A0ZAk201c20dA001R0x2j30680
d2B3d275d210p220d21PjB00A22oB30rB60vB10tB10tA40R40xB80pB30.1U0oB00922oB30rB60vB10tB10tA40R40xBC0.1U
0oB00B12j400h40Ej402l405j400h40W1j400zB01j400n406j4001b20r4001T0p3001T0j3001O0.B004K3XC72XC95XCK0ZC
r400003K3n472n495n4003K3bC72bC95bC004K3bC72bC95bCM0j400711fC01iC00fC00v10UfC00pB0Y1fCb30411fC20fC1U
fC1Y1fC00422iC10v1C0tAr10iC00711lC01oC05lC00x10PlC00pB0Y1lCc30411lC25lC1PlC1Y1lC00422oC60x170tAr10o
C00B10zC00rC00uC00rC0DzC00tA0GzC00vC00xC0X1zC00rCi30B10zC00rC00uC00rC0DzC00tA0GzC00vC00xC0X1zC00rC0
0322uCE0tAr10uC00511vC1X1vC00.C00zC0X1vC00211zC1b2zCi30611zC1EzC1GzC00vC00xC0Y1zC00211vC1b2vC00322u
CE0f1r10uC"

/-- The expectations: a flag for each contextual token. -/
private def expectationText : String :=
  "000000000011111101110001000000001110000010111000001001000000100100001001010100000101000000000101000
00001001000"

/-- The modes: a lexer state and an expectation. -/
private def modeText : String :=
  "01W42j43n42p44p43r43r44j44W45d52i52k52m53m54d55i55j42i56W46t57t52t58Z69c69f6Am62"

/-- Reads the first code of each class as the bound of the class before it. -/
private def classBounds : Feed (List (Nat × Nat)) := do
  let mut bounds := #[]
  let mut start ← next
  let mut cls ← next
  for _ in [0:98] do
    start := start + (← next)
    bounds := bounds.push (start, cls)
    cls ← next
  return (bounds.push (0x110000, cls)).toList

/-- A number that is written one higher, so that 0 can say that there is none. -/
private def raised : Nat → Option Nat
  | 0 => none
  | n + 1 => some n

/-- Reads one lexer state. -/
private def lexState : Feed LexState := do
  let accepts ← next
  let atEnd ← next
  let ways ← patched (Array.replicate 75 0)
  return ⟨raised accepts, raised atEnd,
    ways.map fun way => (raised way).map fun n => (n / 2, n % 2 == 1)⟩

/-- Reads one expectation; of its ten flags, those for text between markup tags and for the state
of a lost parser have no bearing. -/
private def expectation : Feed Expectation := do
  let flags ← many 10 nextFlag
  let flag (i : Nat) : Bool := flags.getD i false
  return ⟨flag 0, flag 1, flag 2, flag 3, flag 4, flag 5, flag 6, flag 8⟩

/-- The expectations that parser states have, by number. -/
private def expectations : Array Expectation := run expectationText (many 11 expectation)

/-- Reads one mode. -/
private def mode : Feed Mode := do
  let lexState ← next
  return ⟨lexState, expectations.getD (← next) default⟩

/-- The bounds of the character classes. -/
def classes : List (Nat × Nat) := run classText classBounds

/-- The lexer states, by number. -/
def lexStates : Array LexState := run lexStateText (many 209 lexState)

/-- The ways of reading tokens, by number. -/
def modes : Array Mode := run modeText (many 27 mode)

end LayerAudit.Syntax.TypeScript
