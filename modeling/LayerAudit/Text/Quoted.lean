import LayerAudit.Text.Packed

/-!
# Quoted text

A text quoted for a reader: between double quotes, with the characters escaped that would end the
quotation or would not show.
-/

namespace LayerAudit.Text

open Packed

/-- The ranges of codes, from delete on, that do not show on their own: controls, formats, blanks,
surrogates, private and unassigned codes, and marks that combine with the character before. Each is
the distance from the range before and one less than the range's length. -/
private def hiddenText : String :=
  ".3X1C0oIl381637010K0W76c50c11o113j110111118R36GAA10k1KG0b37152113W1110USv2A1Dh1872O3181216F0P410B4
VGg1u1t1010474036A1T0208121M0701242102521201C2033O4106321M0702020233N4016A1301B109030M070205247102
21E23C617208121M07020521115212E2033IA106230422010222232C4102230321KL5308030N0G2124I311123A6A0B030N
0A052202021202G2023A02EB030f11102430302330A3Q120I2O09011782576A13Bm102A87Da1201050O010A028115018A1
4VO1R01010E0a1H14115m18060Da1j13151121P142G3D02160F0e101411vB041701041f1041X1041701041F0v1041Z24T2
Q5s2161WK0S2v26I218J138IDD03Eq1116802A92A5A5B4A5v2651Y1014c29V34133206612g115Ai13Q5B2v1122u1018102
76CA5A5Er2m161050A2R8B2W132112u1011301227m1724F2y16h11BA1C1640603114W6.1s8161c116180101010V1r10F0E
160J1309GO7l1G21R0D2X1_1i43tKOBKqu11W10uA224j101411u162EN8707070707070707W1_2X1Q0v2Bs6PC4f15G0s23b
34h10_20q2Bl10jpS2t18yAJl1319W11m2167h6420105NG03040P153A5u17a29CND0c17PA2AU5m102321G0B370P0f15212
A308011A1W10p10122151101NH18A6161687070y13r302042A5azABN3n1Ze8kB1g3b17B5410O050102020z3FzD1s161VGF
ALZ10J04350d43z41V261616132707C21C0Q0J020F1EX1x3433j12u20D21k1j1Y4T2n1FR3a18U4c19U0b13Ef1_41A5a13a
13e17q1AC0F07020B0F0702Y2t98M98N60g109a26110i102211N0e279l1J024X12R41.1u13K1l1E4030T99696W2Vb15C8s
12T1R4Q64B7l2f2s1p1Cp16g1BAb9V0g12112j2e17MA9LI34b1SJN810s1E73U0211Bn1321204DP6A8a1418I7Z103Aq18A3
20G0KAI0S220116X2701040F0B5l103CA7208121M070205210104121311B7x4u172210L0103Tm10251020111147Ab5l102
54111RZ1p1720114AA5DIh1010251025Ar1R42318Nu5l18111Z3p2B81118020O05023104038Ab281g17404Q19e15238815
22k1C119Cf2c890c1D1069T2W1O16111g27020c1K18A56020b13201016Ar9J14s51Eo1CxSb3l305Aa6ho2Z3ClX1m_3dIuj
8vH6V0A3n20A5U619m16F9A070L4JlLx2a3h24u1AD.14B2Du.57sc1f19ct8407020Z9i13G47iCZe2h34D296A1111lr4q3x
1s79d11y10124K26U3z1KY221v4KBt28Pc4r20d2021112140C01070X20418070S040501270qA1a91oHs14n180E07pZ1VWF
j1971A32.9UHi13A41.c1704020F0b619l1a2613A32mOa2h2z1X640R0201110A0401015131010103020111010101010201
14070404010A0H43050Hp12j8i13a3BF1F0F0b19k5t1TCi13962D6v4uU4G2D2q3Bv26C31EC3u17A5e17U12j2qABE152527
8T2B469A58778p40t1a1AbW1Wtf1VvX46_61Yq5Dnf7_W3_GXl1hw4qbxR"

/-- Reads the ranges of hidden codes. -/
private def hiddenFeed : Feed (Array (Nat × Nat)) := do
  let mut ranges := #[]
  let mut position := 0
  for _ in [0:861] do
    let first := position + (← next)
    let last := first + (← next)
    ranges := ranges.push (first, last)
    position := last + 1
  return ranges

/-- The codes, from delete on, that do not show on their own. -/
def hiddenRanges : Array (Nat × Nat) := run hiddenText hiddenFeed

/-- Whether a character shows on its own. -/
def isShown (c : Char) : Bool :=
  decide (0x20 ≤ c.toNat) &&
    (decide (c.toNat < 0x7f) ||
      !hiddenRanges.any fun r => decide (r.1 ≤ c.toNat) && decide (c.toNat ≤ r.2))

/-- The way in which one character is written between quotes. -/
def quoteChar (c : Char) : List Char :=
  match c with
  | '"' => ['\\', '"']
  | '\\' => ['\\', '\\']
  | '\n' => ['\\', 'n']
  | '\r' => ['\\', 'r']
  | '\t' => ['\\', 't']
  | '\x00' => ['\\', '0']
  | _ =>
    if isShown c then [c] else ['\\', 'u', '\x7b'] ++ Nat.toDigits 16 c.toNat ++ ['\x7d']

/-- A text between quotes. -/
def quoted (s : String) : String :=
  String.ofList (['"'] ++ s.toList.flatMap quoteChar ++ ['"'])

end LayerAudit.Text
