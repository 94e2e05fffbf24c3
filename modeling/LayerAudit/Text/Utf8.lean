/-!
# Reading UTF-8

Bytes as text. Where the bytes are not well formed, the fault says where the text breaks off and how
many bytes of a broken character there are; a character that the end cuts short is a fault of its
own kind.
-/

namespace LayerAudit.Text

/-- Where bytes cease to be text. -/
structure Utf8Fault where
  /-- The number of bytes that are text. -/
  validUpTo : Nat
  /-- The length of the broken sequence; none if the end of the bytes cuts it short. -/
  length : Option Nat
  deriving DecidableEq, Repr, Inhabited

/-- The wording of a fault. -/
def Utf8Fault.message (f : Utf8Fault) : String :=
  match f.length with
  | some n =>
    "invalid utf-8 sequence of " ++ toString n ++ " bytes from index " ++ toString f.validUpTo
  | none => "incomplete utf-8 byte sequence from index " ++ toString f.validUpTo

/-- The bytes that may follow within a character, as an inclusive range. -/
structure ByteRange where
  low : Nat
  high : Nat

/-- Whether a byte lies in a range. -/
def ByteRange.holds (r : ByteRange) (b : UInt8) : Bool :=
  decide (r.low ≤ b.toNat) && decide (b.toNat ≤ r.high)

/-- Any byte that continues a character. -/
def continuation : ByteRange := ⟨0x80, 0xbf⟩

/-- What the first byte of a character says: its share of the code and the bytes that follow. -/
def lead? (b : UInt8) : Option (Nat × List ByteRange) :=
  let n := b.toNat
  if n < 0x80 then some (n, [])
  else if n < 0xc2 then none
  else if n < 0xe0 then some (n - 0xc0, [continuation])
  else if n = 0xe0 then some (0, [⟨0xa0, 0xbf⟩, continuation])
  else if n = 0xed then some (0xd, [⟨0x80, 0x9f⟩, continuation])
  else if n < 0xf0 then some (n - 0xe0, [continuation, continuation])
  else if n = 0xf0 then some (0, [⟨0x90, 0xbf⟩, continuation, continuation])
  else if n < 0xf4 then some (n - 0xf0, [continuation, continuation, continuation])
  else if n = 0xf4 then some (4, [⟨0x80, 0x8f⟩, continuation, continuation])
  else none

/-- What became of a character. -/
inductive Tail where
  | whole (code : Nat) (rest : List UInt8)
  | broken (length : Nat)
  | cut

/-- Reads the bytes behind the first one of a character, of which some are already read. -/
def readTail (code seen : Nat) : List ByteRange → List UInt8 → Tail
  | [], rest => .whole code rest
  | _ :: _, [] => .cut
  | r :: ranges, b :: rest =>
    if r.holds b then readTail (code * 0x40 + (b.toNat - 0x80)) (seen + 1) ranges rest
    else .broken seen

/-- Reads characters; the first number bounds how many, the second counts the bytes passed. -/
def decodeFrom : Nat → Nat → List UInt8 → Except Utf8Fault (List Char)
  | 0, _, _ => .ok []
  | _ + 1, _, [] => .ok []
  | limit + 1, passed, b :: rest =>
    match lead? b with
    | none => .error ⟨passed, some 1⟩
    | some (code, ranges) =>
      match readTail code 1 ranges rest with
      | .whole code rest =>
        (decodeFrom limit (passed + 1 + ranges.length) rest).map (Char.ofNat code :: ·)
      | .broken n => .error ⟨passed, some n⟩
      | .cut => .error ⟨passed, none⟩

/-- The text that bytes write. -/
def decodeUtf8 (bytes : List UInt8) : Except Utf8Fault String :=
  (decodeFrom bytes.length 0 bytes).map String.ofList

/-- The bytes that write a text. -/
def encodeUtf8 (s : String) : List UInt8 := s.toUTF8.toList

end LayerAudit.Text
