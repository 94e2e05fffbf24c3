/-!
# Binary floating-point numbers

The numbers of double precision, held exactly: a mantissa below `2 ^ 53` times a power of two that
is not below `2 ^ (-1074)`. Ratios are rounded to the nearest such number, a tie to the even
mantissa, and a number is written with the fewest decimal digits that read back as it.
-/

namespace LayerAudit

/-- The size of a finite number of double precision: `mantissa * 2 ^ exponent`. -/
structure Binary where
  mantissa : Nat
  exponent : Int
  deriving DecidableEq, Repr, Inhabited

namespace Binary

/-- The least exponent. -/
def leastExponent : Int := -1074

/-- The greatest exponent. -/
def greatestExponent : Int := 971

/-- The power of two that a positive mantissa with all its bits reaches. -/
def fullMantissa : Nat := 0x10000000000000

/-- A fraction of naturals, scaled by a power of two or ten. -/
structure Ratio where
  num : Nat
  den : Nat

/-- A ratio times a power. -/
def Ratio.scale (r : Ratio) (base : Nat) (exponent : Int) : Ratio :=
  if 0 ≤ exponent then ⟨r.num * Nat.pow base exponent.toNat, r.den⟩
  else ⟨r.num, r.den * Nat.pow base (-exponent).toNat⟩

/-- The number as a ratio. -/
def toRatio (b : Binary) : Ratio := Ratio.scale ⟨b.mantissa, 1⟩ 2 b.exponent

/-- The nearest natural; a tie goes to the even one. -/
def Ratio.nearest (r : Ratio) : Nat :=
  let whole := r.num / r.den
  let twice := 2 * (r.num % r.den)
  if twice < r.den then whole
  else if r.den < twice then whole + 1
  else if whole % 2 = 0 then whole else whole + 1

/-- The number nearest to a positive ratio; none if it is too great. -/
def ofRatio (r : Ratio) : Option Binary :=
  if r.num = 0 then some ⟨0, leastExponent⟩
  else
    let size : Int := (r.num.log2 : Int) - (r.den.log2 : Int)
    let fits (e : Int) : Bool :=
      let s := r.scale 2 (-e)
      decide (s.num / s.den < fullMantissa)
    let high := size - 52
    let exponent := max leastExponent (if fits high then high - 1 else high)
    let mantissa := (r.scale 2 (-exponent)).nearest
    let b : Binary :=
      if mantissa = 2 * fullMantissa then ⟨fullMantissa, exponent + 1⟩ else ⟨mantissa, exponent⟩
    if b.exponent ≤ greatestExponent then some b else none

/-- The number nearest to `digits * 10 ^ exponent`; none if it is too great. -/
def ofDecimal (digits : Nat) (exponent : Int) : Option Binary :=
  if digits = 0 then some ⟨0, leastExponent⟩
  else
    let size : Int := (digits.log2 : Int) / 3 + exponent
    if 400 < exponent then none
    else if size < -800 then some ⟨0, leastExponent⟩
    else ofRatio (Ratio.scale ⟨digits, 1⟩ 10 exponent)

/-- The product of two numbers, rounded. -/
def mul (a b : Binary) : Option Binary :=
  let x := a.toRatio
  let y := b.toRatio
  ofRatio ⟨x.num * y.num, x.den * y.den⟩

/-- The quotient of two numbers, rounded. -/
def div (a b : Binary) : Option Binary :=
  let x := a.toRatio
  let y := b.toRatio
  ofRatio ⟨x.num * y.den, x.den * y.num⟩

/-- Whether a ratio reads back as the number. -/
def readsBack (b : Binary) (r : Ratio) : Bool := ofRatio r = some b

/-- Whether one ratio is smaller than another. -/
def Ratio.lt (a b : Ratio) : Bool := decide (a.num * b.den < b.num * a.den)

/-- The decimal with a given number of digits that reads back as the number, if there is one: of the
two neighbours on that grid the nearer, and of two equally near ones the lower. -/
def withDigits (b : Binary) (magnitude : Int) (count : Nat) : Option (Nat × Int) :=
  let unit := magnitude - count
  let v := b.toRatio.scale 10 (-unit)
  let low := v.num / v.den
  let value (n : Nat) : Ratio := Ratio.scale ⟨n, 1⟩ 10 unit
  let high := if low + 1 = Nat.pow 10 count then (1, magnitude) else (low + 1, unit)
  match b.readsBack (value low), b.readsBack (value (low + 1)) with
  | true, true => if v.den < 2 * (v.num % v.den) then some high else some (low, unit)
  | true, false => some (low, unit)
  | false, true => some high
  | false, false => none

/-- The least power of ten above a positive number, from an estimate that is not too great. -/
def magnitudeFrom (v : Ratio) : Nat → Int → Int
  | 0, estimate => estimate
  | limit + 1, estimate =>
    if v.lt (Ratio.scale ⟨1, 1⟩ 10 estimate) then estimate else magnitudeFrom v limit (estimate + 1)

/-- The least power of ten above a positive number. -/
def magnitude (b : Binary) : Int :=
  let bits : Int := (b.mantissa.log2 : Int) + b.exponent
  magnitudeFrom b.toRatio 8 (bits * 30103 / 100000 - 1)

/-- The fewest digits that read back as a number, with the power of ten that they count. -/
def shortest (b : Binary) : Nat × Int :=
  if b.mantissa = 0 then (0, 0)
  else ((List.range 17).findSome? fun n => b.withDigits b.magnitude (n + 1)).getD (0, 0)

/-- Digits with a power of ten in positional notation, with at least one digit on either side of the
point. -/
def positional (digits : Nat) (unit : Int) : String :=
  let written := (toString digits).toList
  if 0 ≤ unit then String.ofList (written ++ List.replicate unit.toNat '0' ++ ['.', '0'])
  else
    let places := (-unit).toNat
    let padded := List.replicate (places + 1 - written.length) '0' ++ written
    let whole := padded.length - places
    String.ofList (padded.take whole ++ '.' :: padded.drop whole)

/-- Digits with a power of ten, the first digit before the point and the power behind. -/
def scientific (digits : Nat) (unit : Int) : String :=
  let written := (toString digits).toList
  let power := unit + written.length - 1
  let fraction := if written.length ≤ 1 then [] else '.' :: written.drop 1
  let sign := if power < 0 then "-" else "+"
  String.ofList (written.take 1 ++ fraction) ++ "e" ++ sign ++ toString power.natAbs

/-- A number in positional notation. -/
def text (b : Binary) : String := positional b.shortest.1 b.shortest.2

/-- A number in positional notation if it has at most sixteen places before the point and at most
four zeros behind it, and with a power of ten otherwise. -/
def shortText (b : Binary) : String :=
  let (digits, unit) := b.shortest
  let places := unit + (toString digits).length
  if digits = 0 ∨ (-5 < places ∧ places ≤ 16) then positional digits unit
  else scientific digits unit

end Binary

/-- A number of double precision. -/
inductive Double where
  | finite (negative : Bool) (magnitude : Binary)
  | infinite (negative : Bool)
  | notANumber
  deriving DecidableEq, Repr, Inhabited

namespace Double

/-- The text of a number, whose size is written in a given way. -/
def written (write : Binary → String) : Double → String
  | .finite negative magnitude => (if negative then "-" else "") ++ write magnitude
  | .infinite negative => if negative then "-inf" else "inf"
  | .notANumber => "NaN"

/-- The text of a number in positional notation. -/
def text (d : Double) : String := d.written Binary.text

/-- The text of a number, positional unless it is very large or very small. -/
def shortText (d : Double) : String := d.written Binary.shortText

end Double

end LayerAudit
