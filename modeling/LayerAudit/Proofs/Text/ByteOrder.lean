import LayerAudit.Proofs.Text.Utf8

/-!
# The order of texts as bytes

Texts are compared character by character, and file systems compare names byte by byte. Main statement: both
come to the same. The first byte of a character tells how many follow, and is greater the more there are; the
others hold the rest of the code, six bits each, the highest first. So of two characters the bytes differ
where the codes do, and the one with the smaller code has the smaller byte there.
-/

namespace LayerAudit.Text

/-- What is left of a code without its last bits, six for each byte. -/
def front : Nat → Nat → Nat
  | 0, code => code
  | count + 1, code => front count (code / 0x40)

/-- The first byte of the character with a given code, as a number. -/
def leading (code : Nat) : Nat :=
  if code ≤ 0x7f then code
  else if code ≤ 0x7ff then front 1 code + 0xc0
  else if code ≤ 0xffff then front 2 code + 0xe0
  else front 3 code + 0xf0

/-- How many bytes follow the first one of a character. -/
def trailingCount (code : Nat) : Nat :=
  if code ≤ 0x7f then 0 else if code ≤ 0x7ff then 1 else if code ≤ 0xffff then 2 else 3

/-- The last bytes of a character, as many as are asked for. -/
def trailing : Nat → Nat → List UInt8
  | 0, _ => []
  | count + 1, code => trailing count (code / 0x40) ++ [UInt8.ofNat (code % 0x40 + 0x80)]

/-- A character is written as its first byte and those that follow. -/
theorem utf8EncodeChar_eq (c : Char) : String.utf8EncodeChar c =
    UInt8.ofNat (leading c.toNat) :: trailing (trailingCount c.toNat) c.toNat := by
  have hvalid : c.toNat < 0xd800 ∨ 0xdfff < c.toNat ∧ c.toNat < 0x110000 := c.valid
  simp only [String.utf8EncodeChar, leading, trailingCount, show c.val.toNat = c.toNat from rfl]
  split_ifs with hone htwo hthree
  · rfl
  · rw [Nat.mod_eq_of_lt (by omega : c.toNat / 0x40 < 0x20)]
    rfl
  · rw [Nat.mod_eq_of_lt (by omega : c.toNat / 0x1000 < 0x10)]
    simp only [front, trailing, Nat.div_div_eq_div_mul]
    rfl
  · rw [Nat.mod_eq_of_lt (by omega : c.toNat / 0x40000 < 8)]
    simp only [front, trailing, Nat.div_div_eq_div_mul]
    rfl

/-- What a first byte is made from fits in a byte. -/
theorem leading_lt {code : Nat} (h : code < 0x110000) : leading code < 256 := by
  simp only [leading, front]
  split_ifs <;> omega

/-- The first bytes of two characters decide which comes first, unless the characters have as many bytes and
the same code but for the bits in the others. -/
theorem leading_lt_or {v w : Nat} (h : v < w) (hw : w < 0x110000) :
    leading v < leading w ∨ leading v = leading w ∧ trailingCount v = trailingCount w ∧
      front (trailingCount v) v = front (trailingCount v) w := by
  unfold leading trailingCount
  split_ifs <;> simp only [front, true_and] <;> omega

/-- Numbers below 256 come in the order of their bytes. -/
theorem ofNat_lt_ofNat {m n : Nat} (h : m < n) (hn : n < 256) : UInt8.ofNat m < UInt8.ofNat n := by
  have hvalue {k : Nat} (hk : k < 256) : (UInt8.ofNat k).toNat = k := Nat.mod_eq_of_lt hk
  rw [UInt8.lt_iff_toNat_lt, hvalue hn, hvalue (Nat.lt_trans h hn)]
  exact h

/-- Of two codes with the same bits in front, the smaller one has the smaller last bytes, whatever is
written behind them. -/
theorem trailing_append_lt {count v w : Nat} (h : v < w)
    (hfront : front count v = front count w) (as bs : List UInt8) :
    trailing count v ++ as < trailing count w ++ bs := by
  induction count generalizing v w as bs with
  | zero => exact absurd hfront (Nat.ne_of_lt h)
  | succ count ih =>
    rw [trailing, trailing, List.append_assoc, List.append_assoc]
    by_cases hearlier : v / 0x40 < w / 0x40
    · exact ih hearlier hfront _ _
    · -- up to the last byte the codes are the same
      have hsame : v / 0x40 = w / 0x40 := by omega
      have hlast : UInt8.ofNat (v % 0x40 + 0x80) < UInt8.ofNat (w % 0x40 + 0x80) :=
        ofNat_lt_ofNat (by omega) (by omega)
      rw [hsame]
      exact List.append_left_lt (List.cons_lt_cons_iff.mpr (Or.inl hlast))

/-- What starts with the smaller character starts with the smaller bytes. -/
theorem utf8EncodeChar_append_lt {c d : Char} (h : c < d) (as bs : List UInt8) :
    String.utf8EncodeChar c ++ as < String.utf8EncodeChar d ++ bs := by
  have hcode : c.toNat < d.toNat := h
  have hbound : d.toNat < 0x110000 := by
    have hvalid : d.toNat < 0xd800 ∨ 0xdfff < d.toNat ∧ d.toNat < 0x110000 := d.valid
    omega
  rw [utf8EncodeChar_eq, utf8EncodeChar_eq, List.cons_append, List.cons_append,
    List.cons_lt_cons_iff]
  obtain hfirst | ⟨hfirst, hcount, hfront⟩ := leading_lt_or hcode hbound
  · exact Or.inl (ofNat_lt_ofNat hfirst (leading_lt hbound))
  · rw [hfirst, ← hcount]
    exact Or.inr ⟨rfl, trailing_append_lt hcode hfront _ _⟩

/-- Characters in a row are ordered as their bytes. -/
theorem flatMap_utf8EncodeChar_lt {cs ds : List Char} (h : cs < ds) :
    cs.flatMap String.utf8EncodeChar < ds.flatMap String.utf8EncodeChar := by
  induction h with
  | nil =>
    rw [List.flatMap_nil, List.flatMap_cons, utf8EncodeChar_eq, List.cons_append]
    exact List.nil_lt_cons _ _
  | rel hlt => exact utf8EncodeChar_append_lt hlt _ _
  | cons _ ih => exact List.append_left_lt ih

/-- Texts are ordered as the bytes that they are written with. -/
theorem encodeUtf8_lt_iff {a b : String} : encodeUtf8 a < encodeUtf8 b ↔ a < b := by
  have hlt {a b : String} (h : a < b) : encodeUtf8 a < encodeUtf8 b := by
    rw [encodeUtf8_eq_flatMap, encodeUtf8_eq_flatMap]
    exact flatMap_utf8EncodeChar_lt (String.lt_iff.mp h)
  refine ⟨fun h => ?_, hlt⟩
  rcases Std.lt_trichotomy a b with hab | rfl | hba
  · exact hab
  · exact absurd h (List.lt_irrefl _)
  · exact absurd h (List.lt_asymm (hlt hba))

end LayerAudit.Text
