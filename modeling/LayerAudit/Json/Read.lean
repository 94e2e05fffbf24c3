import LayerAudit.Json.Basic

/-!
# Reading JSON

A reader of JSON documents. Every function takes the characters that are left and gives what it read
with the characters behind it, or nothing if the text is not well formed. A number that is not whole
is read as its leading digits times or over a power of ten, each rounded to double precision.
-/

namespace LayerAudit.Json

/-- The blanks between the parts of a document. -/
def isBlank (c : Char) : Bool := c = ' ' || c = '\n' || c = '\t' || c = '\r'

/-- Drops leading blanks. -/
def skipBlanks (cs : List Char) : List Char := cs.dropWhile isBlank

/-- The value of a hexadecimal digit. -/
def hexValue (c : Char) : Option Nat :=
  if c.isDigit then some (c.toNat - '0'.toNat)
  else if 'a' ≤ c ∧ c ≤ 'f' then some (c.toNat - 'a'.toNat + 10)
  else if 'A' ≤ c ∧ c ≤ 'F' then some (c.toNat - 'A'.toNat + 10)
  else none

/-- The value of four hexadecimal digits. -/
def hexValue4 (a b c d : Char) : Option Nat := do
  return (((← hexValue a) * 16 + (← hexValue b)) * 16 + (← hexValue c)) * 16 + (← hexValue d)

/-- Whether a code is the first, or the second, half of a pair that stands for one character. -/
def isHighHalf (code : Nat) : Bool := decide (0xd800 ≤ code) && decide (code < 0xdc00)

/-- Whether a code is the second half of a pair that stands for one character. -/
def isLowHalf (code : Nat) : Bool := decide (0xdc00 ≤ code) && decide (code < 0xe000)

/-- The character that a single letter behind a backslash stands for. -/
def unescape (c : Char) : Option Char :=
  match c with
  | '"' => some '"'
  | '\\' => some '\\'
  | '/' => some '/'
  | 'b' => some '\x08'
  | 'f' => some '\x0c'
  | 'n' => some '\n'
  | 'r' => some '\r'
  | 't' => some '\t'
  | _ => none

/-- Reads text up to the closing quote. -/
def readText : List Char → Option (List Char × List Char)
  | [] => none
  | '"' :: rest => some ([], rest)
  | '\\' :: 'u' :: a :: b :: c :: d :: rest => do
    let code ← hexValue4 a b c d
    if isHighHalf code then
      match rest with
      | '\\' :: 'u' :: e :: f :: g :: h :: rest =>
        let low ← hexValue4 e f g h
        if isLowHalf low then
          let (cs, rest) ← readText rest
          return (Char.ofNat (0x10000 + (code - 0xd800) * 0x400 + (low - 0xdc00)) :: cs, rest)
        else none
      | _ => none
    else if isLowHalf code then none
    else
      let (cs, rest) ← readText rest
      return (Char.ofNat code :: cs, rest)
  | '\\' :: c :: rest => do
    let meant ← unescape c
    let (cs, rest) ← readText rest
    return (meant :: cs, rest)
  | c :: rest =>
    if c.toNat < 0x20 then none
    else (readText rest).map fun (cs, rest) => (c :: cs, rest)

/-- The digits at the front of a text, and what follows them. -/
def splitDigits (cs : List Char) : List Char × List Char :=
  (cs.takeWhile Char.isDigit, cs.dropWhile Char.isDigit)

/-- The number that digits write. -/
def digitsValue (digits : List Char) : Nat :=
  digits.foldl (fun n c => 10 * n + (c.toNat - '0'.toNat)) 0

/-- Leading digits of a number, and the power of ten that they count. -/
structure Scaled where
  digits : Nat
  exponent : Int

/-- Adds digits as long as they fit 64 bits; the first that does not fit, and all behind it, are
dropped. Every added digit moves the exponent by one amount, every dropped one by another. -/
def Scaled.absorb (added dropped : Int) (s : Scaled) : List Char → Scaled
  | [] => s
  | c :: rest =>
    let digits := 10 * s.digits + (c.toNat - '0'.toNat)
    if digits ≤ greatestInteger then absorb added dropped ⟨digits, s.exponent + added⟩ rest
    else ⟨s.digits, s.exponent + dropped * (rest.length + 1)⟩

/-- A number scaled down until its exponent is in the range of powers that are at hand. -/
def scaleDown : Nat → Binary → Int → Option Binary
  | 0, b, _ => some b
  | limit + 1, b, exponent => do
    if -308 ≤ exponent then b.div (← Binary.ofDecimal 1 (-exponent))
    else scaleDown limit (← b.div (← Binary.ofDecimal 1 308)) (exponent + 308)

/-- The number of double precision that scaled digits are read as. -/
def Scaled.toBinary (s : Scaled) : Option Binary := do
  let b ← Binary.ofDecimal s.digits 0
  if s.digits = 0 then some b
  else if s.exponent < 0 then scaleDown 8 b s.exponent
  else if s.exponent ≤ 308 then b.mul (← Binary.ofDecimal 1 s.exponent)
  else none

/-- Reads the exponent of a number, if there is one. -/
def readExponent : List Char → Option (Option Int × List Char)
  | c :: rest =>
    if c = 'e' ∨ c = 'E' then
      let (negative, rest) :=
        match rest with
        | '-' :: rest => (true, rest)
        | '+' :: rest => (false, rest)
        | rest => (false, rest)
      match splitDigits rest with
      | ([], _) => none
      | (digits, rest) =>
        let n : Int := digitsValue digits
        some (some (if negative then -n else n), rest)
    else some (none, c :: rest)
  | [] => some (none, [])

/-- Reads the fraction of a number, if there is one. -/
def readFraction : List Char → Option (Option (List Char) × List Char)
  | '.' :: rest =>
    match splitDigits rest with
    | ([], _) => none
    | (digits, rest) => some (some digits, rest)
  | rest => some (none, rest)

/-- The digits before the point: a lone zero, or digits that start with another one. -/
def readWhole (cs : List Char) : Option (List Char × List Char) :=
  match splitDigits cs with
  | ([], _) => none
  | (['0'], rest) => some (['0'], rest)
  | ('0' :: _, _) => none
  | (digits, rest) => some (digits, rest)

/-- A whole number, if it fits 64 bits and is not a negative zero. -/
def wholeNumber? (negative : Bool) (n : Nat) : Option Json :=
  if negative then if n = 0 ∨ leastInteger < n then none else some (.integer (-(n : Int)))
  else if n ≤ greatestInteger then some (.integer n)
  else none

/-- Reads a number behind its sign. -/
def readMagnitude (negative : Bool) (cs : List Char) : Option (Json × List Char) := do
  let (whole, rest) ← readWhole cs
  let (fraction, rest) ← readFraction rest
  let (exponent, rest) ← readExponent rest
  let plain := if fraction.isNone && exponent.isNone then
    wholeNumber? negative (digitsValue whole) else none
  match plain with
  | some value => return (value, rest)
  | none =>
    let s := (Scaled.absorb 0 1 ⟨0, 0⟩ whole).absorb (-1) 0 (fraction.getD [])
    let b ← Scaled.toBinary ⟨s.digits, s.exponent + exponent.getD 0⟩
    return (.number (.finite negative b), rest)

/-- Reads a number. -/
def readNumber : List Char → Option (Json × List Char)
  | '-' :: rest => readMagnitude true rest
  | rest => readMagnitude false rest

/-- Reads a fixed word that stands for a value. -/
def readWord (word : String) (value : Json) (cs : List Char) : Option (Json × List Char) :=
  if word.toList.isPrefixOf cs then some (value, cs.drop word.length) else none

mutual

/-- Reads a value. The number bounds the depth and the length of the document. -/
def readValue : Nat → List Char → Option (Json × List Char)
  | 0, _ => none
  | limit + 1, cs =>
    match skipBlanks cs with
    | '"' :: rest => (readText rest).map fun (text, rest) => (.string (String.ofList text), rest)
    | '[' :: rest =>
      match skipBlanks rest with
      | ']' :: rest => some (.array [], rest)
      | rest => (readItems limit rest).map fun (items, rest) => (.array items, rest)
    | '\x7b' :: rest =>
      match skipBlanks rest with
      | '\x7d' :: rest => some (.object [], rest)
      | rest => (readFields limit rest).map fun (fields, rest) => (.object fields, rest)
    | 'n' :: rest => readWord "null" .null ('n' :: rest)
    | 't' :: rest => readWord "true" (.bool true) ('t' :: rest)
    | 'f' :: rest => readWord "false" (.bool false) ('f' :: rest)
    | rest => readNumber rest

/-- Reads one or more items and the closing bracket. -/
def readItems : Nat → List Char → Option (List Json × List Char)
  | 0, _ => none
  | limit + 1, cs => do
    let (item, rest) ← readValue limit cs
    match skipBlanks rest with
    | ',' :: rest =>
      let (items, rest) ← readItems limit rest
      return (item :: items, rest)
    | ']' :: rest => return ([item], rest)
    | _ => none

/-- Reads one or more fields and the closing brace. -/
def readFields : Nat → List Char → Option (List (String × Json) × List Char)
  | 0, _ => none
  | limit + 1, cs =>
    match skipBlanks cs with
    | '"' :: rest => do
      let (name, rest) ← readText rest
      match skipBlanks rest with
      | ':' :: rest =>
        let (value, rest) ← readValue limit rest
        let field := (String.ofList name, value)
        match skipBlanks rest with
        | ',' :: rest =>
          let (fields, rest) ← readFields limit rest
          return (field :: fields, rest)
        | '\x7d' :: rest => return ([field], rest)
        | _ => none
      | _ => none
    | _ => none

end

/-- The value of a document. -/
def parse (text : String) : Option Json := do
  let cs := text.toList
  let (value, rest) ← readValue (cs.length + 1) cs
  if (skipBlanks rest).isEmpty then some value else none

end LayerAudit.Json
