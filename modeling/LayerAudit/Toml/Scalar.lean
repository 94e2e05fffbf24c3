import LayerAudit.Toml.Value

/-!
# Scalars of TOML

The parts of a TOML text that hold no other values: blanks and comments, strings, numbers, dates and
times. A reader takes the characters that are left, with the number of bytes before them, and fails
where the text breaks the rules.
-/

namespace LayerAudit.Toml

/-- The text that is left, and how many bytes lie before it. -/
structure Input where
  rest : List Char
  offset : Nat
  deriving Inhabited

/-- A reader of part of a text. -/
abbrev Reader := StateT Input Option

namespace Reader

/-- A text that breaks the rules. -/
def fail {α : Type} : Reader α := fun _ => none

/-- The next character. -/
def peek : Reader (Option Char) := return (← get).rest.head?

/-- The characters that are left. -/
def remaining : Reader (List Char) := return (← get).rest

/-- The number of bytes that are read. -/
def offset : Reader Nat := return (← get).offset

/-- Goes over one character. -/
def advance : Reader Unit :=
  modify fun i =>
    match i.rest with
    | [] => i
    | c :: rest => ⟨rest, i.offset + c.utf8Size⟩

/-- Goes over a number of characters. -/
def drop (count : Nat) : Reader Unit :=
  modify fun i =>
    ⟨i.rest.drop count, (i.rest.take count).foldl (fun n c => n + c.utf8Size) i.offset⟩

/-- Takes the characters that pass a test. -/
def takeWhile (test : Char → Bool) : Reader (List Char) := do
  let taken := (← remaining).takeWhile test
  drop taken.length
  return taken

/-- Goes over a given text if it is next; tells whether it was. -/
def skip (text : String) : Reader Bool := do
  if text.toList.isPrefixOf (← remaining) then
    drop text.length
    return true
  else return false

/-- Goes over a given text, which has to be next. -/
def expect (text : String) : Reader Unit := do
  if !(← skip text) then fail

/-- Tries one reader and then another. -/
def orElse {α : Type} (first second : Reader α) : Reader α := fun i =>
  match first i with
  | some result => some result
  | none => second i

/-- Reads something if it is there. -/
def maybe {α : Type} (item : Reader α) : Reader (Option α) :=
  orElse (some <$> item) (pure none)

end Reader

open Reader

/-- A blank on a line. -/
def isBlank (c : Char) : Bool := c = ' ' || c = '\t'

/-- Whether a character may stand in comments and, quotes and backslashes apart, in strings. -/
def isPlain (c : Char) : Bool := c = '\t' || (decide (' ' ≤ c) && c != '\x7f')

/-- Goes over blanks on a line. -/
def blanks : Reader Unit := do
  let _ ← takeWhile isBlank

/-- Goes over a line break if there is one; tells whether there was. -/
def newline : Reader Bool := do
  if ← skip "\n" then return true else skip "\r\n"

/-- Goes over a comment if there is one. -/
def comment : Reader Unit := do
  if ← skip "#" then
    let _ ← takeWhile isPlain

/-- Goes over what may follow a line's content, and over its end. -/
def lineEnd : Reader Unit := do
  blanks
  comment
  if (← remaining).isEmpty then return
  if !(← newline) then fail

/-- Goes over blanks, comments and line breaks, in a number of steps at most. -/
def gap : Nat → Reader Unit
  | 0 => return
  | limit + 1 => do
    blanks
    comment
    if ← newline then gap limit

/-- Goes over blanks and line breaks, in a number of steps at most. -/
def blankLines : Nat → Reader Unit
  | 0 => return
  | limit + 1 => do
    blanks
    if ← newline then blankLines limit

/-- The value of a hexadecimal digit. -/
def digitValue (c : Char) : Option Nat :=
  if c.isDigit then some (c.toNat - '0'.toNat)
  else if 'a' ≤ c ∧ c ≤ 'f' then some (c.toNat - 'a'.toNat + 10)
  else if 'A' ≤ c ∧ c ≤ 'F' then some (c.toNat - 'A'.toNat + 10)
  else none

/-- The number that digits of a base write. -/
def digitsValue (base : Nat) (digits : List Char) : Nat :=
  digits.foldl (fun n c => n * base + (digitValue c).getD 0) 0

/-- A character given by the code that a number of hexadecimal digits write. -/
def codePoint (count : Nat) : Reader Char := do
  let digits := (← remaining).take count
  if digits.length = count ∧ digits.all fun c => (digitValue c).isSome then
    drop count
    let code := digitsValue 16 digits
    if code < 0xd800 ∨ (0xdfff < code ∧ code < 0x110000) then return Char.ofNat code else fail
  else fail

/-- A character behind a backslash. -/
def escape : Reader Char := do
  let next ← peek
  advance
  match next with
  | some 'b' => return '\x08'
  | some 't' => return '\t'
  | some 'n' => return '\n'
  | some 'f' => return '\x0c'
  | some 'r' => return '\r'
  | some '"' => return '"'
  | some '\\' => return '\\'
  | some 'u' => codePoint 4
  | some 'U' => codePoint 8
  | _ => fail

/-- The rest of a string between single double quotes. -/
def basicRest (done : List Char) : Nat → Reader String
  | 0 => fail
  | limit + 1 => do
    let next ← peek
    advance
    match next with
    | some '"' => return String.ofList done.reverse
    | some '\\' =>
      let c ← escape
      basicRest (c :: done) limit
    | some c => if isPlain c then basicRest (c :: done) limit else fail
    | none => fail

/-- The rest of a string between single quotation marks. -/
def literalRest : Reader String := do
  let cs ← takeWhile fun c => isPlain c && c != '\''
  expect "'"
  return String.ofList cs

/-- Takes the quotes at hand in a string of several lines. Three to five of them end the string, and
those beyond three belong to it. Gives the quotes that belong to the string and whether it ends. -/
def quotesAt (quote : Char) : Reader (List Char × Bool) := do
  let quotes := (← remaining).takeWhile (· = quote)
  drop quotes.length
  if quotes.length < 3 then return (quotes, false)
  else if quotes.length ≤ 5 then return (quotes.drop 3, true)
  else fail

/-- The rest of a string of several lines. Line breaks are kept as line feeds. If escapes are
allowed, a backslash at the end of a line takes away all blanks and line breaks that follow. -/
def linesRest (quote : Char) (escapes : Bool) (done : List Char) : Nat → Reader String
  | 0 => fail
  | limit + 1 => do
    if (← peek) = some quote then
      let (quotes, ends) ← quotesAt quote
      let done := quotes ++ done
      if ends then return String.ofList done.reverse else linesRest quote escapes done limit
    else if ← newline then linesRest quote escapes ('\n' :: done) limit
    else
      let next ← peek
      advance
      match next with
      | none => fail
      | some c =>
        if escapes && c = '\\' then
          let here ← get
          blanks
          if ← newline then
            blankLines (← remaining).length
            linesRest quote escapes done limit
          else
            set here
            let c ← escape
            linesRest quote escapes (c :: done) limit
        else if isPlain c then linesRest quote escapes (c :: done) limit
        else fail

/-- A string in any of its four forms. -/
def stringValue : Reader String := do
  let limit := (← remaining).length + 1
  if ← skip "\"\"\"" then
    let _ ← newline
    linesRest '"' true [] limit
  else if ← skip "'''" then
    let _ ← newline
    linesRest '\'' false [] limit
  else if ← skip "\"" then basicRest [] limit
  else if ← skip "'" then literalRest
  else fail

/-- Digits that pass a test, with single underscores between them. -/
def digitGroups (test : Char → Bool) : Reader (List Char) := do
  let taken ← takeWhile fun c => test c || c = '_'
  let paired := taken.zip (taken.drop 1)
  if taken.isEmpty || taken.head? = some '_' || taken.getLast? = some '_' ||
      paired.any fun p => p.1 = '_' && p.2 = '_' then fail
  else return taken.filter (· != '_')

/-- A sign; tells whether it is a minus. -/
def sign : Reader Bool := do
  if ← skip "-" then return true
  let _ ← skip "+"
  return false

/-- The digits of a decimal number, which do not start with a zero unless it is the only one. -/
def decimalDigits : Reader (List Char) := do
  if (← peek) = some '0' then
    advance
    return ['0']
  else digitGroups Char.isDigit

/-- The size of the least whole number of 64 bits. -/
def leastInteger : Nat := 0x8000000000000000

/-- A whole number that fits 64 bits. -/
def fitting (negative : Bool) (n : Nat) : Reader Int :=
  if n < leastInteger ∨ (negative ∧ n = leastInteger) then
    return if negative then -(n : Int) else n
  else fail

/-- A whole number. -/
def integerValue : Reader Int := do
  if ← skip "0x" then
    fitting false (digitsValue 16 (← digitGroups fun c => (digitValue c).isSome))
  else if ← skip "0o" then
    fitting false (digitsValue 8 (← digitGroups fun c => decide ('0' ≤ c) && decide (c ≤ '7')))
  else if ← skip "0b" then
    fitting false (digitsValue 2 (← digitGroups fun c => c = '0' || c = '1'))
  else
    let negative ← sign
    fitting negative (digitsValue 10 (← decimalDigits))

/-- The exponent of a number. -/
def exponent : Reader Int := do
  if !(← skip "e") then expect "E"
  let negative ← sign
  let n : Int := digitsValue 10 (← digitGroups Char.isDigit)
  return if negative then -n else n

/-- The fraction of a number, behind the point. -/
def fraction : Reader (List Char) := do
  expect "."
  digitGroups Char.isDigit

/-- A number that is not finite. -/
def specialFloat : Reader Double := do
  let negative ← sign
  if ← skip "inf" then return .infinite negative
  else if ← skip "nan" then return .notANumber
  else fail

/-- A number with a fraction or an exponent. One that is too great is refused, and one that is too
far below zero is taken as infinite. -/
def plainFloat : Reader Double := do
  let negative ← sign
  let whole ← decimalDigits
  let decimals ← maybe fraction
  let power ← maybe exponent
  if decimals.isNone && power.isNone then fail
  else
    let places := decimals.getD []
    match Binary.ofDecimal (digitsValue 10 (whole ++ places)) (power.getD 0 - places.length) with
    | some b => return .finite negative b
    | none => if negative then return .infinite true else fail

/-- A number that is not whole. -/
def floatValue : Reader Double := orElse plainFloat specialFloat

/-- A number of just so many digits, within bounds. -/
def fixedDigits (count low high : Nat) : Reader Nat := do
  let digits := (← remaining).take count
  let n := digitsValue 10 digits
  if digits.length = count ∧ digits.all Char.isDigit ∧ low ≤ n ∧ n ≤ high then
    drop count
    return n
  else fail

/-- A number with at least so many digits. -/
def padded (count n : Nat) : String :=
  let digits := toString n
  String.ofList (List.replicate (count - digits.length) '0') ++ digits

/-- The number of days of a month. -/
def daysIn (year month : Nat) : Nat :=
  if month = 2 then
    if year % 4 = 0 ∧ (year % 100 ≠ 0 ∨ year % 400 = 0) then 29 else 28
  else if month = 4 ∨ month = 6 ∨ month = 9 ∨ month = 11 then 30
  else 31

/-- A date. -/
def date : Reader String := do
  let year ← fixedDigits 4 0 9999
  expect "-"
  let month ← fixedDigits 2 1 12
  expect "-"
  let day ← fixedDigits 2 1 (daysIn year month)
  return padded 4 year ++ "-" ++ padded 2 month ++ "-" ++ padded 2 day

/-- Fractions of a second, to nine places; zeros at the end are dropped. -/
def secondFraction : Reader String := do
  let digits ← maybe do
    expect "."
    let digits ← takeWhile Char.isDigit
    if digits.isEmpty then fail else return digits
  let kept := (((digits.getD []).take 9).reverse.dropWhile (· = '0')).reverse
  return if kept.isEmpty then "" else "." ++ String.ofList kept

/-- A time of day. -/
def time : Reader String := do
  let hour ← fixedDigits 2 0 23
  expect ":"
  let minute ← fixedDigits 2 0 59
  expect ":"
  let second ← fixedDigits 2 0 60
  return padded 2 hour ++ ":" ++ padded 2 minute ++ ":" ++ padded 2 second ++ (← secondFraction)

/-- The distance of a local time from the common one. -/
def timeOffset : Reader String := do
  if ← skip "Z" then return "Z"
  else if ← skip "z" then return "Z"
  else
    let negative := (← peek) = some '-'
    if !(← skip "+") then expect "-"
    let hour ← fixedDigits 2 0 23
    expect ":"
    let minute ← fixedDigits 2 0 59
    let zero := hour = 0 ∧ minute = 0
    let mark := if negative ∧ ¬zero then "-" else "+"
    return mark ++ padded 2 hour ++ ":" ++ padded 2 minute

/-- A date, a time or both, in their plainest form. -/
def momentValue : Reader String :=
  orElse
    (do
      let day ← date
      let rest ← maybe do
        if !(← skip "T") then
          if !(← skip "t") then expect " "
        let hours ← time
        return "T" ++ hours ++ ((← maybe timeOffset).getD "")
      return day ++ rest.getD "")
    time

end LayerAudit.Toml
