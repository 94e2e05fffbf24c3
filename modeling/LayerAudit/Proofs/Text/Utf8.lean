import LayerAudit.Text.Utf8
import Mathlib.Tactic.SplitIfs

/-!
# Texts as bytes and back

Main statement: the bytes that a text is written with are read as that text. Each character is written
with one to four bytes, and its first byte tells how many follow and in which ranges they lie, so one
character after the other is read back.
-/

namespace LayerAudit.Text

/-- The bytes of an array from an index on are appended to those that were passed. -/
theorem toList_loop_eq (bytes : ByteArray) (i : Nat) (passed : List UInt8) :
    ByteArray.toList.loop bytes i passed = passed.reverse ++ bytes.data.toList.drop i := by
  induction i, passed using ByteArray.toList.loop.induct bytes with
  | case1 i passed hi ih =>
    have hsize : i < bytes.data.toList.length := hi
    have hget : bytes.get! i = bytes.data.toList[i] := by
      rw [Array.getElem_toList]
      exact getElem!_pos bytes.data i hi
    rw [ByteArray.toList.loop, if_pos hi, ih, List.reverse_cons, List.append_assoc,
      List.singleton_append, hget, List.getElem_cons_drop]
  | case2 i passed hi =>
    have hsize : bytes.data.toList.length ≤ i := Nat.le_of_not_lt hi
    rw [ByteArray.toList.loop, if_neg hi, List.drop_of_length_le hsize, List.append_nil]

/-- A text is written character by character. -/
theorem encodeUtf8_eq_flatMap (s : String) :
    encodeUtf8 s = s.toList.flatMap String.utf8EncodeChar := by
  have hbytes : s.toUTF8 = (s.toList.flatMap String.utf8EncodeChar).toByteArray :=
    String.utf8Encode_toList.symm
  rw [encodeUtf8, hbytes, ByteArray.toList, toList_loop_eq]
  simp

/-- A byte in its range adds six bits to the code of a character. -/
theorem readTail_cons {code seen n : Nat} {r : ByteRange} {ranges : List ByteRange}
    {rest : List UInt8} (hn : n < 256) (hlow : r.low ≤ n) (hhigh : n ≤ r.high) :
    readTail code seen (r :: ranges) (UInt8.ofNat n :: rest) =
      readTail (code * 0x40 + (n - 0x80)) (seen + 1) ranges rest := by
  have hbyte : (UInt8.ofNat n).toNat = n := Nat.mod_eq_of_lt hn
  have hholds : r.holds (UInt8.ofNat n) = true := by
    simp [ByteRange.holds, hbyte, hlow, hhigh]
  rw [readTail, if_pos hholds, hbyte]

/-- A character is read if its first byte announces the bytes that follow. -/
theorem decodeFrom_cons {limit passed code : Nat} {b : UInt8} {bytes rest : List UInt8}
    {ranges : List ByteRange} {c : Char} (hlead : lead? b = some (code, ranges))
    (htail : readTail code 1 ranges bytes = .whole c.toNat rest) :
    decodeFrom (limit + 1) passed (b :: bytes) =
      (decodeFrom limit (passed + 1 + ranges.length) rest).map (c :: ·) := by
  rw [decodeFrom, hlead]
  simp only [htail, Char.ofNat_toNat]

/-- The first of two bytes announces the second one. -/
theorem lead?_two {n : Nat} (hlow : 0xc2 ≤ n) (hhigh : n < 0xe0) :
    lead? (UInt8.ofNat n) = some (n - 0xc0, [continuation]) := by
  have hbyte : (UInt8.ofNat n).toNat = n := Nat.mod_eq_of_lt (by omega)
  simp only [lead?, hbyte]
  rw [if_neg (by omega), if_neg (by omega), if_pos hhigh]

/-- The first of three bytes announces the others. The range of the second one leaves out codes that fit
in two bytes, and codes that stand for half a character. -/
theorem exists_lead?_three {v : Nat} (hlow : 0x800 ≤ v) (hhigh : v < 0x10000)
    (hvalid : v < 0xd800 ∨ 0xdfff < v) :
    ∃ r, lead? (UInt8.ofNat (v / 0x1000 + 0xe0)) = some (v / 0x1000, [r, continuation]) ∧
      r.low ≤ v / 0x40 % 0x40 + 0x80 ∧ v / 0x40 % 0x40 + 0x80 ≤ r.high := by
  have hbyte : (UInt8.ofNat (v / 0x1000 + 0xe0)).toNat = v / 0x1000 + 0xe0 :=
    Nat.mod_eq_of_lt (by omega)
  simp only [lead?, hbyte]
  rw [if_neg (by omega), if_neg (by omega), if_neg (by omega)]
  by_cases hfirst : v / 0x1000 = 0
  · refine ⟨⟨0xa0, 0xbf⟩, by rw [if_pos (by omega), hfirst], ?_⟩
    simp only
    omega
  · rw [if_neg (by omega)]
    by_cases hhalves : v / 0x1000 = 0xd
    · refine ⟨⟨0x80, 0x9f⟩, by rw [if_pos (by omega), hhalves], ?_⟩
      simp only
      omega
    · refine ⟨continuation, by rw [if_neg (by omega), if_pos (by omega), Nat.add_sub_cancel], ?_⟩
      simp only [continuation]
      omega

/-- The first of four bytes announces the others. The range of the second one leaves out codes that fit
in three bytes, and codes that are too great. -/
theorem exists_lead?_four {v : Nat} (hlow : 0x10000 ≤ v) (hhigh : v < 0x110000) :
    ∃ r, lead? (UInt8.ofNat (v / 0x40000 + 0xf0)) =
        some (v / 0x40000, [r, continuation, continuation]) ∧
      r.low ≤ v / 0x1000 % 0x40 + 0x80 ∧ v / 0x1000 % 0x40 + 0x80 ≤ r.high := by
  have hbyte : (UInt8.ofNat (v / 0x40000 + 0xf0)).toNat = v / 0x40000 + 0xf0 :=
    Nat.mod_eq_of_lt (by omega)
  simp only [lead?, hbyte]
  rw [if_neg (by omega), if_neg (by omega), if_neg (by omega), if_neg (by omega), if_neg (by omega),
    if_neg (by omega)]
  by_cases hfirst : v / 0x40000 = 0
  · refine ⟨⟨0x90, 0xbf⟩, by rw [if_pos (by omega), hfirst], ?_⟩
    simp only
    omega
  · rw [if_neg (by omega)]
    by_cases hlast : v / 0x40000 = 4
    · refine ⟨⟨0x80, 0x8f⟩, by rw [if_neg (by omega), if_pos (by omega), hlast], ?_⟩
      simp only
      omega
    · refine ⟨continuation, by rw [if_pos (by omega), Nat.add_sub_cancel], ?_⟩
      simp only [continuation]
      omega

/-- The bytes of a character are read as that character. -/
theorem exists_decodeFrom_utf8EncodeChar (c : Char) (limit passed : Nat) (rest : List UInt8) :
    ∃ behind, decodeFrom (limit + 1) passed (String.utf8EncodeChar c ++ rest) =
      (decodeFrom limit behind rest).map (c :: ·) := by
  have hvalid : c.toNat < 0xd800 ∨ 0xdfff < c.toNat ∧ c.toNat < 0x110000 := c.valid
  have hlow (n : Nat) : continuation.low ≤ n % 0x40 + 0x80 := Nat.le_add_left _ _
  have hhigh (n : Nat) : n % 0x40 + 0x80 ≤ continuation.high := by
    simp only [continuation]
    omega
  simp only [String.utf8EncodeChar, show c.val.toNat = c.toNat from rfl]
  split_ifs with hone htwo hthree <;> simp only [List.cons_append, List.nil_append]
  · have hlead : lead? (UInt8.ofNat c.toNat) = some (c.toNat, []) := by
      have hbyte : (UInt8.ofNat c.toNat).toNat = c.toNat := Nat.mod_eq_of_lt (by omega)
      simp only [lead?, hbyte]
      rw [if_pos (by omega)]
    exact ⟨_, decodeFrom_cons hlead rfl⟩
  · have hlead := lead?_two (n := c.toNat / 0x40 % 0x20 + 0xc0) (by omega) (by omega)
    refine ⟨_, decodeFrom_cons hlead ?_⟩
    rw [readTail_cons (by omega) (hlow _) (hhigh _), readTail]
    exact congrArg (Tail.whole · rest) (by omega)
  · obtain ⟨r, hlead, hbelow, habove⟩ := exists_lead?_three (v := c.toNat) (by omega) (by omega)
      (by omega)
    rw [← Nat.mod_eq_of_lt (show c.toNat / 0x1000 < 0x10 by omega)] at hlead
    refine ⟨_, decodeFrom_cons hlead ?_⟩
    rw [readTail_cons (by omega) hbelow habove, readTail_cons (by omega) (hlow _) (hhigh _), readTail]
    exact congrArg (Tail.whole · rest) (by omega)
  · obtain ⟨r, hlead, hbelow, habove⟩ := exists_lead?_four (v := c.toNat) (by omega) (by omega)
    rw [← Nat.mod_eq_of_lt (show c.toNat / 0x40000 < 8 by omega)] at hlead
    refine ⟨_, decodeFrom_cons hlead ?_⟩
    rw [readTail_cons (by omega) hbelow habove, readTail_cons (by omega) (hlow _) (hhigh _),
      readTail_cons (by omega) (hlow _) (hhigh _), readTail]
    exact congrArg (Tail.whole · rest) (by omega)

/-- The bytes of characters are read as these characters. -/
theorem decodeFrom_flatMap (cs : List Char) {limit passed : Nat}
    (hlimit : (cs.flatMap String.utf8EncodeChar).length ≤ limit) :
    decodeFrom limit passed (cs.flatMap String.utf8EncodeChar) = .ok cs := by
  induction cs generalizing limit passed with
  | nil => cases limit <;> rfl
  | cons c cs ih =>
    have hbytes : 0 < (String.utf8EncodeChar c).length :=
      String.length_utf8EncodeChar c ▸ c.utf8Size_pos
    rw [List.flatMap_cons, List.length_append] at hlimit
    obtain ⟨limit, rfl⟩ : ∃ fewer, limit = fewer + 1 := ⟨limit - 1, by omega⟩
    obtain ⟨behind, hread⟩ := exists_decodeFrom_utf8EncodeChar c limit passed
      (cs.flatMap String.utf8EncodeChar)
    rw [List.flatMap_cons, hread, ih (by omega)]
    rfl

/-- The bytes that a text is written with are read as the text. -/
theorem decodeUtf8_encodeUtf8 (s : String) : decodeUtf8 (encodeUtf8 s) = .ok s := by
  rw [decodeUtf8, encodeUtf8_eq_flatMap, decodeFrom_flatMap s.toList (Nat.le_refl _)]
  exact congrArg Except.ok String.ofList_toList

end LayerAudit.Text
