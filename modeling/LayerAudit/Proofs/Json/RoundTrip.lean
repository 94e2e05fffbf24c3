import LayerAudit.Json.Read
import LayerAudit.Json.Write
import Mathlib.Data.List.DropRight

/-!
# JSON that is written and read back

Main statement: a value whose numbers are whole and fit 64 bits is read back from its pretty form.

The reader takes one part of a text after the other, so each lemma puts an arbitrary rest behind what
was written and says that the reader stops there. Only a number does not show by itself where it ends:
the rest must not go on with it. Numbers with a fraction are left out; they are read back only as far
as the reader rounds as the writer does.
-/

namespace LayerAudit.Json

section Text

/-- A hexadecimal digit has the value that it was written for. -/
theorem hexValue_hexDigit : ∀ n < 16, hexValue (hexDigit n) = some n := by decide

/-- A code below the blank is written with four digits that give it back. -/
theorem hexValue4_hexDigit {n : Nat} (h : n < 0x20) :
    hexValue4 '0' '0' (hexDigit (n / 16)) (hexDigit (n % 16)) = some n := by
  have hhigh := hexValue_hexDigit (n / 16) (by omega)
  have hlow := hexValue_hexDigit (n % 16) (by omega)
  have hzero : hexValue '0' = some 0 := rfl
  simp only [hexValue4, hzero, hhigh, hlow, Option.bind_eq_bind, Option.bind_some, pure]
  exact congrArg some (by omega)

/-- What is read of a text that starts with a given character, if the rest is read. -/
def startingWith (c : Char) (read : Option (List Char × List Char)) :
    Option (List Char × List Char) := read.map fun (cs, rest) => (c :: cs, rest)

/-- A character that is written as it is, is read as it is. -/
theorem readText_plain {c : Char} (hquote : c ≠ '"') (hslash : c ≠ '\\') (hshown : ¬c.toNat < 0x20)
    (rest : List Char) : readText (c :: rest) = startingWith c (readText rest) := by
  rw [readText.eq_def]
  split
  next heq => contradiction
  next heq => exact absurd (List.cons.inj heq).1 hquote
  next heq => exact absurd (List.cons.inj heq).1 hslash
  next heq => exact absurd (List.cons.inj heq).1 hslash
  next heq =>
    obtain ⟨rfl, rfl⟩ := List.cons.inj heq
    exact if_neg hshown

/-- A letter behind a backslash is read as what it stands for. -/
theorem readText_escape {letter c : Char} (hletter : unescape letter = some c) (rest : List Char) :
    readText ('\\' :: letter :: rest) = startingWith c (readText rest) := by
  have hne : letter ≠ 'u' := by
    rintro rfl
    contradiction
  rw [readText.eq_def]
  split
  next heq => contradiction
  next heq => exact absurd (List.cons.inj heq).1 (by decide)
  next heq => exact absurd (List.cons.inj (List.cons.inj heq).2).1 hne
  next heq =>
    obtain ⟨rfl, rfl⟩ := List.cons.inj (List.cons.inj heq).2
    rw [hletter]
    cases readText rest <;> rfl
  next hback heq =>
    obtain ⟨hc, hrest⟩ := List.cons.inj heq
    exact (hback letter rest hc.symm hrest.symm).elim

/-- A code below the blank is read as its character. -/
theorem readText_control {c : Char} (hcontrol : c.toNat < 0x20) (rest : List Char) :
    readText ('\\' :: 'u' :: '0' :: '0' :: hexDigit (c.toNat / 16) :: hexDigit (c.toNat % 16) :: rest) =
      startingWith c (readText rest) := by
  have hhigh : isHighHalf c.toNat = false := by
    rw [isHighHalf, decide_eq_false (by omega), Bool.false_and]
  have hlow : isLowHalf c.toNat = false := by
    rw [isLowHalf, decide_eq_false (by omega), Bool.false_and]
  rw [readText, hexValue4_hexDigit hcontrol]
  simp only [Option.bind_eq_bind, Option.bind_some, hhigh, hlow, Char.ofNat_toNat]
  cases readText rest <;> rfl

/-- Each character is read back from the way in which it is written. -/
theorem readText_escapeChar (c : Char) (rest : List Char) :
    readText (escapeChar c ++ rest) = startingWith c (readText rest) := by
  unfold escapeChar
  split
  -- seven characters have a letter of their own
  iterate 7 exact readText_escape rfl rest
  next hquote hslash _ _ _ _ _ =>
    split
    next hcontrol => exact readText_control hcontrol rest
    next hshown => exact readText_plain hquote hslash hshown rest

/-- A text is read back up to the quote that closes it. -/
theorem readText_written (cs rest : List Char) :
    readText (cs.flatMap escapeChar ++ '"' :: rest) = some (cs, rest) := by
  induction cs with
  | nil => rw [List.flatMap_nil, List.nil_append, readText]
  | cons c cs ih =>
    rw [List.flatMap_cons, List.append_assoc, readText_escapeChar, ih]
    rfl

/-- A written text is its characters, escaped one by one, between quotation marks. -/
theorem writeText_append (text : String) (rest : List Char) :
    writeText text ++ rest = '"' :: (text.toList.flatMap escapeChar ++ '"' :: rest) := by
  simp [writeText]

end Text

section Number

/-- What follows a number does not go on with it. -/
def EndsNumber (rest : List Char) : Prop :=
  ∀ c ∈ rest.head?, c.isDigit = false ∧ c ≠ '.' ∧ c ≠ 'e' ∧ c ≠ 'E'

/-- Digits are split off where they end. -/
theorem splitDigits_append {digits rest : List Char} (hdigits : ∀ c ∈ digits, c.isDigit = true)
    (hrest : EndsNumber rest) : splitDigits (digits ++ rest) = (digits, rest) := by
  have hend : rest.takeWhile Char.isDigit = [] ∧ rest.dropWhile Char.isDigit = rest := by
    cases rest with
    | nil => exact ⟨rfl, rfl⟩
    | cons c rest =>
      obtain ⟨hc, -⟩ := hrest c rfl
      simp [hc]
  rw [splitDigits, List.takeWhile_append_of_pos hdigits, List.dropWhile_append_of_pos hdigits,
    hend.1, hend.2, List.append_nil]

/-- The digits of a number start with a zero only if there are no others. -/
theorem toDigits_eq_zero_cons {n : Nat} {rest : List Char} (h : Nat.toDigits 10 n = '0' :: rest) :
    n = 0 := by
  induction n using Nat.strongRecOn generalizing rest with
  | _ n ih =>
    by_cases hn : n < 10
    · rw [Nat.toDigits_of_lt_base hn] at h
      exact Nat.digitChar_eq_zero.mp (List.cons.inj h).1
    · rw [Nat.toDigits_of_base_le (by decide) (Nat.le_of_not_lt hn)] at h
      obtain ⟨digit, digits, hdigits⟩ :=
        List.exists_cons_of_ne_nil (Nat.toDigits_ne_nil (n := n / 10) (b := 10))
      rw [hdigits, List.cons_append] at h
      obtain ⟨rfl, -⟩ := List.cons.inj h
      have hzero := ih (n / 10) (by omega) hdigits
      omega

/-- The digits of a number are read up to where they end. -/
theorem readWhole_toDigits (n : Nat) {rest : List Char} (hrest : EndsNumber rest) :
    readWhole (Nat.toDigits 10 n ++ rest) = some (Nat.toDigits 10 n, rest) := by
  have hsplit : splitDigits (Nat.toDigits 10 n ++ rest) = (Nat.toDigits 10 n, rest) :=
    splitDigits_append (fun c hc => Nat.isDigit_of_mem_toDigits (by decide) (by decide) hc) hrest
  rw [readWhole, hsplit]
  split
  next heq => exact absurd (Prod.mk.inj heq).1 Nat.toDigits_ne_nil
  next heq =>
    obtain ⟨hdigits, rfl⟩ := Prod.mk.inj heq
    rw [hdigits]
  -- a zero with digits behind it
  next hlone heq =>
    obtain ⟨hdigits, -⟩ := Prod.mk.inj heq
    obtain rfl := toDigits_eq_zero_cons hdigits
    exact (hlone (List.cons.inj hdigits).2.symm).elim
  next heq =>
    obtain ⟨rfl, rfl⟩ := Prod.mk.inj heq
    rfl

/-- A whole number that fits is read up to where its digits end. -/
theorem readMagnitude_toDigits {negative : Bool} {n : Nat} {value : Json}
    (hvalue : wholeNumber? negative n = some value) {rest : List Char} (hrest : EndsNumber rest) :
    readMagnitude negative (Nat.toDigits 10 n ++ rest) = some (value, rest) := by
  have hfraction : readFraction rest = some (none, rest) := by
    unfold readFraction
    split
    next => exact absurd rfl (hrest _ rfl).2.1
    next => rfl
  have hexponent : readExponent rest = some (none, rest) := by
    unfold readExponent
    split
    next c others =>
      obtain ⟨-, -, he, hE⟩ := hrest c rfl
      exact if_neg fun h => h.elim he hE
    next => rfl
  have hdigits : digitsValue (Nat.toDigits 10 n) = n := Nat.ofDigitChars_ten_toDigits
  simp only [readMagnitude, readWhole_toDigits n hrest, hfraction, hexponent, Option.bind_eq_bind,
    Option.bind_some, hdigits, Option.isNone_none, Bool.and_self, if_true, hvalue]
  rfl

/-- Whether a whole number fits 64 bits, as one without a sign or as one with. -/
def Fits (value : Int) : Prop := -(leastInteger : Int) ≤ value ∧ value ≤ greatestInteger

/-- The digits of a number start with a digit. -/
theorem exists_toDigits_eq_cons (n : Nat) :
    ∃ c digits, Nat.toDigits 10 n = c :: digits ∧ c.isDigit = true := by
  obtain ⟨c, digits, h⟩ := List.exists_cons_of_ne_nil (Nat.toDigits_ne_nil (n := n) (b := 10))
  exact ⟨c, digits, h, Nat.isDigit_of_mem_toDigits (by decide) (by decide) (h ▸ List.mem_cons_self)⟩

/-- A whole number is written with a digit or a sign first. -/
theorem exists_toString_eq_cons (value : Int) :
    ∃ c cs, (toString value).toList = c :: cs ∧ (c.isDigit = true ∨ c = '-') := by
  rw [Int.toString_eq_repr, Int.repr_eq_if]
  split
  next =>
    obtain ⟨c, digits, hdigits, hc⟩ := exists_toDigits_eq_cons value.toNat
    exact ⟨c, digits, by rw [Nat.toList_repr, hdigits], Or.inl hc⟩
  next => exact ⟨'-', _, by rw [String.toList_append]; rfl, Or.inr rfl⟩

/-- A whole number that fits is read back. -/
theorem readNumber_toString {value : Int} (hvalue : Fits value) {rest : List Char}
    (hrest : EndsNumber rest) :
    readNumber ((toString value).toList ++ rest) = some (.integer value, rest) := by
  obtain ⟨hleast, hgreatest⟩ := hvalue
  rw [Int.toString_eq_repr, Int.repr_eq_if]
  split
  next hsign =>
    have hwhole : wholeNumber? false value.toNat = some (.integer value) := by
      rw [wholeNumber?, if_neg Bool.false_ne_true, if_pos (by omega), Int.toNat_of_nonneg hsign]
    obtain ⟨c, digits, hdigits, hc⟩ := exists_toDigits_eq_cons value.toNat
    have hread := readMagnitude_toDigits hwhole hrest
    rw [Nat.toList_repr]
    rw [hdigits, List.cons_append] at hread ⊢
    unfold readNumber
    split
    next heq => exact absurd hc (by rw [(List.cons.inj heq).1]; decide)
    next => exact hread
  next hsign =>
    have hwhole : wholeNumber? true (-value).toNat = some (.integer value) := by
      rw [wholeNumber?, if_pos rfl, if_neg (by omega), Int.toNat_of_nonneg (by omega), Int.neg_neg]
    rw [String.toList_append, Nat.toList_repr, List.append_assoc]
    exact readMagnitude_toDigits hwhole hrest

end Number

section Value

/-- A value whose numbers are whole and fit 64 bits. -/
inductive Exact : Json → Prop
  | null : Exact .null
  | bool (value : Bool) : Exact (.bool value)
  | integer {value : Int} (hvalue : Fits value) : Exact (.integer value)
  | string (value : String) : Exact (.string value)
  | array {items : List Json} (hitems : ∀ item ∈ items, Exact item) : Exact (.array items)
  | object {fields : List (String × Json)} (hfields : ∀ f ∈ fields, Exact f.2) :
    Exact (.object fields)

/-- A line break with its indentation is skipped. -/
theorem skipBlanks_newline (level : Nat) (cs : List Char) :
    skipBlanks (newline level ++ cs) = skipBlanks cs := by
  refine List.dropWhile_append_of_pos fun c hc => ?_
  rcases List.mem_cons.mp hc with rfl | hspace
  · rfl
  · rw [List.eq_of_mem_replicate hspace]
    rfl

/-- Nothing is skipped in front of a character that is not blank. -/
theorem skipBlanks_cons {c : Char} (hc : isBlank c = false) (cs : List Char) :
    skipBlanks (c :: cs) = c :: cs := by
  rw [skipBlanks, List.dropWhile_cons, hc, if_neg Bool.false_ne_true]

/-- An array with items is written between brackets. -/
theorem prettyChars_array {items : List Json} (hne : items ≠ []) (level : Nat) :
    (array items).prettyChars level =
      '[' :: (prettyItems (level + 1) items ++ newline level ++ [']']) := by
  rw [prettyChars]
  · rfl
  · exact hne

/-- An object with fields is written between braces. -/
theorem prettyChars_object {fields : List (String × Json)} (hne : fields ≠ []) (level : Nat) :
    (object fields).prettyChars level =
      '\x7b' :: (prettyFields (level + 1) fields ++ newline level ++ ['\x7d']) := by
  rw [prettyChars]
  · rfl
  · exact hne

/-- Once blanks are skipped there are none left to skip. -/
theorem skipBlanks_skipBlanks (cs : List Char) : skipBlanks (skipBlanks cs) = skipBlanks cs :=
  List.dropWhile_idempotent _ cs

/-- The pretty form of a value starts neither with a blank nor as the end of an array. -/
theorem exists_prettyChars_eq_cons {v : Json} (hv : v.Exact) (level : Nat) :
    ∃ c cs, v.prettyChars level = c :: cs ∧ isBlank c = false ∧ c ≠ ']' := by
  cases hv with
  | null => exact ⟨'n', _, rfl, by decide⟩
  | bool value => cases value <;> exact ⟨_, _, rfl, by decide⟩
  | string value => exact ⟨'"', _, rfl, by decide⟩
  | @array items _ =>
    by_cases hne : items = []
    · exact ⟨'[', [']'], by rw [hne]; rfl, by decide⟩
    · exact ⟨'[', _, prettyChars_array hne level, by decide⟩
  | @object fields _ =>
    by_cases hne : fields = []
    · exact ⟨'\x7b', ['\x7d'], by rw [hne]; rfl, by decide⟩
    · exact ⟨'\x7b', _, prettyChars_object hne level, by decide⟩
  | @integer value _ =>
    obtain ⟨c, cs, hcs, hc⟩ := exists_toString_eq_cons value
    have hne {d : Char} (hd : ¬(d.isDigit = true ∨ d = '-')) : c ≠ d := fun h => hd (h ▸ hc)
    refine ⟨c, cs, hcs, ?_, hne (by decide)⟩
    have hblank : c ≠ ' ' ∧ c ≠ '\n' ∧ c ≠ '\t' ∧ c ≠ '\r' :=
      ⟨hne (by decide), hne (by decide), hne (by decide), hne (by decide)⟩
    simp [isBlank, hblank]

/-- Of the pretty form of a value nothing is skipped. -/
theorem skipBlanks_prettyChars {v : Json} (hv : v.Exact) (level : Nat) (rest : List Char) :
    skipBlanks (v.prettyChars level ++ rest) = v.prettyChars level ++ rest := by
  obtain ⟨c, cs, hcs, hblank, -⟩ := exists_prettyChars_eq_cons hv level
  rw [hcs, List.cons_append, skipBlanks_cons hblank]

/-- A written text does not start with blanks. -/
theorem skipBlanks_writeText (text : String) (rest : List Char) :
    skipBlanks (writeText text ++ rest) = writeText text ++ rest := by
  rw [writeText_append, skipBlanks_cons (by decide)]

/-- A comma and a blank end a number. -/
theorem endsNumber_cons {c : Char} (hc : c = ',' ∨ isBlank c = true) (rest : List Char) :
    EndsNumber (c :: rest) := by
  intro d hd
  obtain rfl := Option.some.inj hd
  simp only [isBlank, Bool.or_eq_true, decide_eq_true_eq] at hc
  rcases hc with rfl | ((rfl | rfl) | rfl) | rfl <;> decide

section Read

variable {limit : Nat} {cs rest : List Char}

/-- A written null is read back. -/
theorem readValue_null {level : Nat} (hcs : skipBlanks cs = null.prettyChars level ++ rest) :
    readValue (limit + 1) cs = some (.null, rest) := by
  rw [readValue, hcs]
  rfl

/-- A written truth value is read back. -/
theorem readValue_bool {level : Nat} {value : Bool}
    (hcs : skipBlanks cs = (bool value).prettyChars level ++ rest) :
    readValue (limit + 1) cs = some (.bool value, rest) := by
  rw [readValue, hcs]
  cases value <;> rfl

/-- A written text is read back as a value. -/
theorem readValue_string {text : String} (hcs : skipBlanks cs = writeText text ++ rest) :
    readValue (limit + 1) cs = some (.string text, rest) := by
  rw [writeText_append] at hcs
  simp only [readValue, hcs, readText_written, Option.map_some, String.ofList_toList]

/-- A digit or a sign starts a number. -/
theorem readValue_number {c : Char} (hc : c.isDigit = true ∨ c = '-')
    (hcs : skipBlanks cs = c :: rest) : readValue (limit + 1) cs = readNumber (c :: rest) := by
  have hne {d : Char} (hd : ¬(d.isDigit = true ∨ d = '-')) : c ≠ d := fun h => hd (h ▸ hc)
  rw [readValue, hcs]
  split
  next heq => exact absurd (List.cons.inj heq).1 (hne (by decide))
  next heq => exact absurd (List.cons.inj heq).1 (hne (by decide))
  next heq => exact absurd (List.cons.inj heq).1 (hne (by decide))
  next heq => exact absurd (List.cons.inj heq).1 (hne (by decide))
  next heq => exact absurd (List.cons.inj heq).1 (hne (by decide))
  next heq => exact absurd (List.cons.inj heq).1 (hne (by decide))
  next => rfl

/-- An array that does not end at once is read item by item. -/
theorem readValue_array {inner : List Char} (hcs : skipBlanks cs = '[' :: inner)
    (hinner : (skipBlanks inner).head? ≠ some ']') :
    readValue (limit + 1) cs =
      (readItems limit (skipBlanks inner)).map fun (items, rest) => (.array items, rest) := by
  simp only [readValue, hcs]
  split
  next heq => exact absurd (congrArg List.head? heq) hinner
  next => rfl

/-- An object that does not end at once is read field by field. -/
theorem readValue_object {inner : List Char} (hcs : skipBlanks cs = '\x7b' :: inner)
    (hinner : (skipBlanks inner).head? ≠ some '\x7d') :
    readValue (limit + 1) cs =
      (readFields limit (skipBlanks inner)).map fun (fields, rest) => (.object fields, rest) := by
  simp only [readValue, hcs]
  split
  next heq => exact absurd (congrArg List.head? heq) hinner
  next => rfl

/-- An item with a closing bracket behind it is the last one. -/
theorem readItems_last {item : Json} {behind : List Char}
    (hitem : readValue limit cs = some (item, behind)) (hbehind : skipBlanks behind = ']' :: rest) :
    readItems (limit + 1) cs = some ([item], rest) := by
  simp only [readItems, hitem, Option.bind_eq_bind, Option.bind_some, hbehind]
  rfl

/-- An item with a comma behind it comes before the others. -/
theorem readItems_more {item : Json} {items : List Json} {behind inner : List Char}
    (hitem : readValue limit cs = some (item, behind)) (hbehind : skipBlanks behind = ',' :: inner)
    (hitems : readItems limit inner = some (items, rest)) :
    readItems (limit + 1) cs = some (item :: items, rest) := by
  simp only [readItems, hitem, Option.bind_eq_bind, Option.bind_some, hbehind, hitems]
  rfl

/-- A field with a closing brace behind it is the last one. -/
theorem readFields_last {name : String} {value : Json} {inner behind : List Char}
    (hcs : skipBlanks cs = writeText name ++ ':' :: inner)
    (hvalue : readValue limit inner = some (value, behind))
    (hbehind : skipBlanks behind = '\x7d' :: rest) :
    readFields (limit + 1) cs = some ([(name, value)], rest) := by
  rw [writeText_append] at hcs
  simp only [readFields, hcs, readText_written, Option.bind_eq_bind, Option.bind_some,
    skipBlanks_cons (by decide : isBlank ':' = false), hvalue, hbehind, String.ofList_toList]
  rfl

/-- A field with a comma behind it comes before the others. -/
theorem readFields_more {name : String} {value : Json} {fields : List (String × Json)}
    {inner behind others : List Char} (hcs : skipBlanks cs = writeText name ++ ':' :: inner)
    (hvalue : readValue limit inner = some (value, behind))
    (hbehind : skipBlanks behind = ',' :: others)
    (hfields : readFields limit others = some (fields, rest)) :
    readFields (limit + 1) cs = some ((name, value) :: fields, rest) := by
  rw [writeText_append] at hcs
  simp only [readFields, hcs, readText_written, Option.bind_eq_bind, Option.bind_some,
    skipBlanks_cons (by decide : isBlank ':' = false), hvalue, hbehind, hfields, String.ofList_toList]
  rfl

end Read

/-- Whether a value is read wherever its pretty form stands before what ends a number, if the reader
goes as deep as the form is long. -/
def ReadsBack (v : Json) : Prop :=
  ∀ {level limit : Nat} {cs rest : List Char}, EndsNumber rest →
    (v.prettyChars level).length < limit → skipBlanks cs = v.prettyChars level ++ rest →
    readValue limit cs = some (v, rest)

/-- A single item is written on a line of its own. -/
theorem prettyItems_singleton (level : Nat) (item : Json) :
    prettyItems level [item] = newline level ++ item.prettyChars level := by
  rw [prettyItems]

/-- An item in front of others is written on a line of its own, with a comma. -/
theorem prettyItems_cons (level : Nat) (item : Json) {items : List Json} (hne : items ≠ []) :
    prettyItems level (item :: items) =
      newline level ++ (item.prettyChars level ++ ',' :: prettyItems level items) := by
  rw [prettyItems, List.append_assoc]
  exact hne

/-- A single field is written on a line of its own. -/
theorem prettyFields_singleton (level : Nat) (name : String) (value : Json) :
    prettyFields level [(name, value)] =
      newline level ++ (writeText name ++ ':' :: ' ' :: value.prettyChars level) := by
  rw [prettyFields, List.append_assoc, List.append_assoc]
  rfl

/-- A field in front of others is written on a line of its own, with a comma. -/
theorem prettyFields_cons (level : Nat) (name : String) (value : Json)
    {fields : List (String × Json)} (hne : fields ≠ []) :
    prettyFields level ((name, value) :: fields) =
      newline level ++ (writeText name ++
        ':' :: ' ' :: (value.prettyChars level ++ ',' :: prettyFields level fields)) := by
  rw [prettyFields]
  · simp only [List.append_assoc]
    rfl
  · exact hne

/-- Items do not start as the end of an array. -/
theorem head?_skipBlanks_prettyItems {items : List Json} (hne : items ≠ [])
    (hitems : ∀ item ∈ items, item.Exact) (level : Nat) (rest : List Char) :
    (skipBlanks (prettyItems level items ++ rest)).head? ≠ some ']' := by
  obtain ⟨item, items, rfl⟩ := List.exists_cons_of_ne_nil hne
  have hitem := hitems item List.mem_cons_self
  obtain ⟨c, cs, hcs, -, hc⟩ := exists_prettyChars_eq_cons hitem level
  have hstart (more : List Char) :
      (skipBlanks (newline level ++ (item.prettyChars level ++ more))).head? = some c := by
    rw [skipBlanks_newline, skipBlanks_prettyChars hitem, hcs]
    rfl
  by_cases hone : items = []
  · rw [hone, prettyItems_singleton, List.append_assoc, hstart]
    exact fun h => hc (Option.some.inj h)
  · rw [prettyItems_cons level item hone, List.append_assoc, List.append_assoc, hstart]
    exact fun h => hc (Option.some.inj h)

/-- Fields do not start as the end of an object. -/
theorem head?_skipBlanks_prettyFields {fields : List (String × Json)} (hne : fields ≠ [])
    (level : Nat) (rest : List Char) :
    (skipBlanks (prettyFields level fields ++ rest)).head? ≠ some '\x7d' := by
  obtain ⟨⟨name, value⟩, fields, rfl⟩ := List.exists_cons_of_ne_nil hne
  have hstart (more : List Char) :
      (skipBlanks (newline level ++ (writeText name ++ more))).head? = some '"' := by
    rw [skipBlanks_newline, skipBlanks_writeText]
    rfl
  by_cases hone : fields = []
  · rw [hone, prettyFields_singleton, List.append_assoc, List.append_assoc, hstart]
    decide
  · rw [prettyFields_cons level name value hone, List.append_assoc, List.append_assoc, hstart]
    decide

/-- Items that are read back one by one are read back together. Of the blanks before the first of
them some may have been skipped already. -/
theorem readItems_prettyItems {items : List Json} (hne : items ≠ [])
    (hitems : ∀ item ∈ items, item.Exact ∧ item.ReadsBack) {level outer limit : Nat}
    {cs rest : List Char} (hlimit : (prettyItems level items).length < limit)
    (hcs : skipBlanks cs = skipBlanks (prettyItems level items ++ (newline outer ++ ']' :: rest))) :
    readItems limit cs = some (items, rest) := by
  induction items generalizing limit cs with
  | nil => contradiction
  | cons item items ih =>
    obtain ⟨hexact, hread⟩ := hitems item List.mem_cons_self
    cases limit with
    | zero => contradiction
    | succ limit =>
      cases items with
      | nil =>
        rw [prettyItems_singleton, List.append_assoc, skipBlanks_newline,
          skipBlanks_prettyChars hexact] at hcs
        rw [prettyItems_singleton, newline] at hlimit
        simp only [List.length_append, List.length_cons] at hlimit
        have hend : EndsNumber (newline outer ++ ']' :: rest) := endsNumber_cons (Or.inr rfl) _
        refine readItems_last (hread hend (by omega) hcs) ?_
        rw [skipBlanks_newline, skipBlanks_cons (by decide)]
      | cons next others =>
        have hothers : next :: others ≠ [] := List.cons_ne_nil next others
        rw [prettyItems_cons level item hothers, List.append_assoc, List.append_assoc,
          skipBlanks_newline, skipBlanks_prettyChars hexact] at hcs
        rw [prettyItems_cons level item hothers, newline] at hlimit
        simp only [List.length_append, List.length_cons] at hlimit
        refine readItems_more (hread (endsNumber_cons (Or.inl rfl) _) (by omega) hcs)
          (skipBlanks_cons (by decide) _) (ih hothers (fun item hitem => ?_) (by omega) rfl)
        exact hitems item (List.mem_cons_of_mem _ hitem)

/-- Fields whose values are read back are read back with their names. Here, too, blanks may have been
skipped. -/
theorem readFields_prettyFields {fields : List (String × Json)} (hne : fields ≠ [])
    (hfields : ∀ f ∈ fields, f.2.Exact ∧ f.2.ReadsBack) {level outer limit : Nat}
    {cs rest : List Char} (hlimit : (prettyFields level fields).length < limit)
    (hcs : skipBlanks cs =
      skipBlanks (prettyFields level fields ++ (newline outer ++ '\x7d' :: rest))) :
    readFields limit cs = some (fields, rest) := by
  induction fields generalizing limit cs with
  | nil => contradiction
  | cons f fields ih =>
    obtain ⟨name, value⟩ := f
    obtain ⟨hexact, hread⟩ : value.Exact ∧ value.ReadsBack := hfields _ List.mem_cons_self
    cases limit with
    | zero => contradiction
    | succ limit =>
      cases fields with
      | nil =>
        rw [prettyFields_singleton, List.append_assoc, List.append_assoc, skipBlanks_newline,
          skipBlanks_writeText] at hcs
        rw [prettyFields_singleton, newline] at hlimit
        simp only [List.length_append, List.length_cons] at hlimit
        have hend : EndsNumber (newline outer ++ '\x7d' :: rest) := endsNumber_cons (Or.inr rfl) _
        refine readFields_last hcs (hread hend (by omega) (skipBlanks_prettyChars hexact level _)) ?_
        rw [skipBlanks_newline, skipBlanks_cons (by decide)]
      | cons next others =>
        have hothers : next :: others ≠ [] := List.cons_ne_nil next others
        rw [prettyFields_cons level name value hothers, List.append_assoc, List.append_assoc,
          skipBlanks_newline, skipBlanks_writeText] at hcs
        simp only [List.cons_append, List.append_assoc] at hcs
        rw [prettyFields_cons level name value hothers, newline] at hlimit
        simp only [List.length_append, List.length_cons] at hlimit
        refine readFields_more hcs (hread (endsNumber_cons (Or.inl rfl) _) (by omega)
          (skipBlanks_prettyChars hexact level _)) (skipBlanks_cons (by decide) _)
          (ih hothers (fun f hf => ?_) (by omega) rfl)
        exact hfields f (List.mem_cons_of_mem _ hf)

/-- The reader must only take one step before it looks at the parts of a value. -/
theorem readsBack_of_step {v : Json}
    (h : ∀ {level limit : Nat} {cs rest : List Char}, EndsNumber rest →
      (v.prettyChars level).length ≤ limit → skipBlanks cs = v.prettyChars level ++ rest →
      readValue (limit + 1) cs = some (v, rest)) : v.ReadsBack := by
  intro level limit cs rest hrest hlimit hcs
  cases limit with
  | zero => contradiction
  | succ limit => exact h hrest (Nat.le_of_lt_succ hlimit) hcs

/-- A value without fractions is read back from its pretty form. -/
theorem readsBack_of_exact {v : Json} (hv : v.Exact) : v.ReadsBack := by
  induction hv with
  | null => exact readsBack_of_step fun _ _ hcs => readValue_null hcs
  | bool value => exact readsBack_of_step fun _ _ hcs => readValue_bool hcs
  | string text => exact readsBack_of_step fun _ _ hcs => readValue_string hcs
  | @integer value hvalue =>
    refine readsBack_of_step fun hrest _ hcs => ?_
    have hread := readNumber_toString hvalue hrest
    obtain ⟨c, digits, hdigits, hc⟩ := exists_toString_eq_cons value
    change skipBlanks _ = (toString value).toList ++ _ at hcs
    rw [hdigits, List.cons_append] at hcs hread
    rw [readValue_number hc hcs, hread]
  | @array items hitems ih =>
    refine readsBack_of_step fun {level limit cs rest} _ hlimit hcs => ?_
    by_cases hne : items = []
    · subst hne
      rw [readValue, hcs]
      rfl
    · rw [prettyChars_array hne] at hlimit hcs
      have hlength : (prettyItems (level + 1) items).length < limit := by
        simp only [List.length_append, List.length_cons] at hlimit
        omega
      simp only [List.cons_append, List.append_assoc, List.nil_append] at hcs
      rw [readValue_array hcs (head?_skipBlanks_prettyItems hne hitems _ _),
        readItems_prettyItems hne (fun item hitem => ⟨hitems item hitem, ih item hitem⟩) hlength
          (skipBlanks_skipBlanks _)]
      rfl
  | @object fields hfields ih =>
    refine readsBack_of_step fun {level limit cs rest} _ hlimit hcs => ?_
    by_cases hne : fields = []
    · subst hne
      rw [readValue, hcs]
      rfl
    · rw [prettyChars_object hne] at hlimit hcs
      have hlength : (prettyFields (level + 1) fields).length < limit := by
        simp only [List.length_append, List.length_cons] at hlimit
        omega
      simp only [List.cons_append, List.append_assoc, List.nil_append] at hcs
      rw [readValue_object hcs (head?_skipBlanks_prettyFields hne _ _),
        readFields_prettyFields hne (fun f hf => ⟨hfields f hf, ih f hf⟩) hlength
          (skipBlanks_skipBlanks _)]
      rfl

/-- A value without fractions is read back from a document that holds its pretty form and blanks
behind it. -/
theorem parse_pretty {v : Json} (hv : v.Exact) {blanks : String}
    (hblanks : ∀ c ∈ blanks.toList, isBlank c = true) : parse (v.pretty ++ blanks) = some v := by
  have hchars : (v.pretty ++ blanks).toList = v.prettyChars 0 ++ blanks.toList := by
    rw [String.toList_append, pretty, String.toList_ofList]
  have hend : EndsNumber blanks.toList := by
    cases hcs : blanks.toList with
    | nil => exact fun c hc => nomatch hc
    | cons c rest => exact endsNumber_cons (Or.inr (hblanks c (hcs ▸ List.mem_cons_self))) rest
  have hread : readValue ((v.pretty ++ blanks).toList.length + 1) (v.pretty ++ blanks).toList =
      some (v, blanks.toList) := by
    have hlength : (v.prettyChars 0).length < (v.pretty ++ blanks).toList.length + 1 := by
      rw [hchars, List.length_append]
      omega
    exact readsBack_of_exact hv hend hlength (by rw [hchars, skipBlanks_prettyChars hv])
  have hskip : skipBlanks blanks.toList = [] := List.dropWhile_eq_nil_iff.mpr hblanks
  simp only [parse, hread, Option.bind_eq_bind, Option.bind_some, hskip]
  rfl

end Value

end LayerAudit.Json
