/-!
# Packed tables

Large tables of small numbers are kept as text. Each character stands for six bits: digits, capital
letters, small letters, the underscore and the full stop, in this order. A number is written in
base 32 from its low end; every character but its last has 32 added. Line breaks carry no meaning.
-/

namespace LayerAudit.Packed

/-- The six bits that a character stands for. -/
def sixBits (c : Char) : Option Nat :=
  if c.isDigit then some (c.toNat - '0'.toNat)
  else if c.isUpper then some (c.toNat - 'A'.toNat + 10)
  else if c.isLower then some (c.toNat - 'a'.toNat + 36)
  else if c = '_' then some 62
  else if c = '.' then some 63
  else none

/-- Numbers read so far, and the number under way with the weight of its next digit. -/
structure Progress where
  done : Array Nat
  value : Nat
  weight : Nat

/-- Takes one character of packed text. -/
def Progress.take (p : Progress) (c : Char) : Progress :=
  match sixBits c with
  | none => p
  | some bits =>
    if bits < 32 then ⟨p.done.push (p.value + bits * p.weight), 0, 1⟩
    else { p with value := p.value + (bits - 32) * p.weight, weight := p.weight * 32 }

/-- The numbers that a packed text holds. -/
def numbers (text : String) : Array Nat :=
  (text.foldl Progress.take ⟨#[], 0, 1⟩).done

/-- A reader of consecutive numbers; past the end it reads zeros. -/
abbrev Feed := ReaderT (Array Nat) (StateM Nat)

/-- The next number. -/
def next : Feed Nat := fun numbers position => (numbers.getD position 0, position + 1)

/-- The next number, as a truth value. -/
def nextFlag : Feed Bool := return (← next) != 0

/-- As many items as asked for. -/
def many {α : Type} (count : Nat) (item : Feed α) : Feed (Array α) := do
  let mut items := #[]
  for _ in [0:count] do
    items := items.push (← item)
  return items

/-- A counted sequence of items. -/
def counted {α : Type} (item : Feed α) : Feed (Array α) := do many (← next) item

/-- Reads a packed text from its start. -/
def run {α : Type} (text : String) (feed : Feed α) : α :=
  (feed (numbers text) 0).1

/-- Overwrites cells of a row: counted runs, each the distance from the run before, one less than
its length, and the value of all its cells. -/
def patched (row : Array Nat) : Feed (Array Nat) := do
  let mut cells := row
  let mut position := 0
  for _ in [0:← next] do
    position := position + (← next)
    let length := (← next) + 1
    let value ← next
    for offset in [0:length] do
      cells := cells.setIfInBounds (position + offset) value
    position := position + length
  return cells

end LayerAudit.Packed
