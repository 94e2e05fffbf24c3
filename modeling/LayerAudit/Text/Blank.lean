/-!
# Blank characters

The characters that Unicode gives the property `White_Space`, and the removal of characters from
the ends of a text.
-/

namespace LayerAudit.Text

/-- The ranges of codes that have the property `White_Space`. -/
def blankRanges : List (Nat × Nat) :=
  [(0x09, 0x0d), (0x20, 0x20), (0x85, 0x85), (0xa0, 0xa0), (0x1680, 0x1680), (0x2000, 0x200a),
    (0x2028, 0x2029), (0x202f, 0x202f), (0x205f, 0x205f), (0x3000, 0x3000)]

/-- Whether a character is blank. -/
def isBlank (c : Char) : Bool :=
  blankRanges.any fun r => decide (r.1 ≤ c.toNat) && decide (c.toNat ≤ r.2)

/-- Drops the characters that pass a test from both ends. -/
def trimWhere (test : Char → Bool) (cs : List Char) : List Char :=
  ((cs.dropWhile test).reverse.dropWhile test).reverse

end LayerAudit.Text
