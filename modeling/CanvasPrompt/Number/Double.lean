import CanvasPrompt.Text.Basic

/-!
# Binary floating-point numbers of 64 bits

A double is its 64 bits: a sign, an exponent of 11 bits and a fraction of 52. Everything here is
exact arithmetic on natural numbers: rounding a quotient to the nearest double (a tie goes to the
even neighbour), reading a decimal, and the shortest decimal that reads back. Powers are written as
`Nat.pow`, so that they do not depend on the algebra that is imported.
-/

namespace CanvasPrompt

/-- A 64-bit binary floating-point number, given by its bits. -/
structure Double where
  /-- Sign, biased exponent and fraction, from the most significant bit on. -/
  bits : UInt64
  deriving DecidableEq, Inhabited

namespace Double

/-- The magnitude bits of infinity: the largest exponent and a zero fraction. -/
def infinityBits : Nat := 0x7FF0000000000000

/-- The double with the given sign and magnitude bits. -/
def ofMagnitude (negative : Bool) (magnitude : Nat) : Double :=
  ⟨UInt64.ofNat ((if negative then Nat.pow 2 63 else 0) + magnitude)⟩

/-- The bits without the sign. -/
def magnitude (d : Double) : Nat :=
  d.bits.toNat % Nat.pow 2 63

/-- Whether the sign bit is set. -/
def isNegative (d : Double) : Bool :=
  Nat.pow 2 63 ≤ d.bits.toNat

/-- Zero of either sign. -/
def isZero (d : Double) : Bool :=
  d.magnitude == 0

/-- No number at all. -/
def isNaN (d : Double) : Bool :=
  infinityBits < d.magnitude

/-- Neither infinite nor a NaN. -/
def isFinite (d : Double) : Bool :=
  d.magnitude < infinityBits

/-- Zero with a positive sign. -/
def zero : Double := ofMagnitude false 0

/-- The NaN that reading the word for it gives. -/
def nan : Double := ofMagnitude false 0x7FF8000000000000

/-- Infinity of either sign. -/
def infinity (negative : Bool) : Double := ofMagnitude negative infinityBits

/-- Whether the number is zero or less; a NaN is not. -/
def atMostZero (d : Double) : Bool :=
  d.isZero || (d.isNegative && !d.isNaN)

/-- `num / den` rounded to a whole number, a tie to the even neighbour. -/
def roundHalfEven (num den : Nat) : Nat :=
  let q := num / den
  let r := num % den
  if den < 2 * r || (den == 2 * r && q % 2 == 1) then q + 1 else q

/-- The exponent of the power of two at or below the positive quotient `num / den`. -/
def floorLog2 (num den : Nat) : Int :=
  let e : Int := (num.log2 : Int) - (den.log2 : Int)
  let reached : Bool :=
    if 0 ≤ e then den * Nat.pow 2 e.toNat ≤ num else den ≤ num * Nat.pow 2 (-e).toNat
  if reached then e else e - 1

/-- The magnitude bits of the double nearest to `num / den`. The last place counts in units of `2 ^
unit`, at least `2 ^ (-1074)`; packing adds exponent and fraction, so a carry out of the fraction
raises the exponent, up to infinity. -/
def roundQuotient (num den : Nat) : Nat :=
  if num == 0 then 0
  else
    let unit : Int := max (floorLog2 num den - 52) (-1074)
    let m :=
      if 0 ≤ unit then roundHalfEven num (den * Nat.pow 2 unit.toNat)
      else roundHalfEven (num * Nat.pow 2 (-unit).toNat) den
    min ((unit + 1074).toNat * Nat.pow 2 52 + m) infinityBits

/-- The double nearest to an integer, if its magnitude is not too large for one. -/
def ofInt? (i : Int) : Option Double :=
  let magnitude := roundQuotient i.natAbs 1
  if magnitude < infinityBits then some (ofMagnitude (decide (i < 0)) magnitude) else none

/-- The number of decimal digits of `n`; zero has one. -/
def digitCount (n : Nat) : Nat :=
  (Nat.toDigits 10 n).length

/-- The double nearest to `± m · 10 ^ e`. Values far outside the range of doubles are decided by the
position of their first digit, before any large power is formed. -/
def ofDecimal (negative : Bool) (m : Nat) (e : Int) : Double :=
  let position : Int := digitCount m + e
  if m == 0 || position < -400 then ofMagnitude negative 0
  else if 400 < position then infinity negative
  else if 0 ≤ e then ofMagnitude negative (roundQuotient (m * Nat.pow 10 e.toNat) 1)
  else ofMagnitude negative (roundQuotient m (Nat.pow 10 (-e).toNat))

/-- Mantissa and exponent `(m, e)` of a finite double: its magnitude is `m · 2 ^ e`. -/
def scaled (d : Double) : Nat × Int :=
  let fraction : Nat := d.magnitude % Nat.pow 2 52
  let exponent : Nat := d.magnitude / Nat.pow 2 52
  if exponent == 0 then (fraction, -1074) else (Nat.pow 2 52 + fraction, (exponent : Int) - 1075)

/-- The magnitude of a finite double as a quotient. -/
def quotient (d : Double) : Nat × Nat :=
  let (m, e) := d.scaled
  if 0 ≤ e then (m * Nat.pow 2 e.toNat, 1) else (m, Nat.pow 2 (-e).toNat)

/-- The whole part of a finite double, toward zero. -/
def truncate? (d : Double) : Option Int :=
  if d.isFinite then
    let whole : Nat := d.quotient.1 / d.quotient.2
    some (if d.isNegative then -(whole : Int) else (whole : Int))
  else none

/-- The whole number that a finite double is, if it is one. -/
def toInt? (d : Double) : Option Int :=
  let (num, den) := d.quotient
  if d.isFinite && num % den == 0 then d.truncate? else none

/-- Positive decimal numbers `digits · 10 ^ exponent`. -/
structure Decimal where
  /-- The digits, read as a whole number. -/
  digits : Nat
  /-- The power of ten of the last digit. -/
  exponent : Int

/-- The two neighbours of `num / den` among the multiples of `10 ^ e`, the lower one first. -/
def neighbours (num den : Nat) (e : Int) : Decimal × Decimal :=
  let q := if 0 ≤ e then num / (den * Nat.pow 10 e.toNat) else num * Nat.pow 10 (-e).toNat / den
  (⟨q, e⟩, ⟨q + 1, e⟩)

/-- Whether a decimal reads as the double with the given magnitude bits. -/
def Decimal.readsAs (c : Decimal) (magnitude : Nat) : Bool :=
  (ofDecimal false c.digits c.exponent).magnitude == magnitude

/-- Whether `num / den` is at least as near to `lo` as to the next multiple of the same power of
ten; at equal distance the even one is taken. -/
def prefersLower (num den : Nat) (lo : Decimal) : Bool :=
  let (n, d) :=
    if 0 ≤ lo.exponent then (num, den * Nat.pow 10 lo.exponent.toNat)
    else (num * Nat.pow 10 (-lo.exponent).toNat, den)
  let twice := 2 * (n - lo.digits * d)
  twice < d || (twice == d && lo.digits % 2 == 0)

/-- Try the grids of multiples of `10 ^ e`, from coarse to fine: the first grid with a decimal that
reads back wins, and of two such neighbours the nearer one. -/
def shortestFrom (num den magnitude : Nat) : Nat → Int → Decimal
  | 0, e => (neighbours num den e).1
  | tries + 1, e =>
    let (lo, hi) := neighbours num den e
    match lo.readsAs magnitude, hi.readsAs magnitude with
    | true, true => if prefersLower num den lo then lo else hi
    | true, false => lo
    | false, true => hi
    | false, false => shortestFrom num den magnitude tries (e - 1)

/-- A power of ten at or above the leading digit of the positive quotient `num / den`, at most two
too high. -/
def leadingPower (num den : Nat) : Int :=
  (floorLog2 num den + 1) * 30103 / 100000 + 1

/-- The shortest decimal that reads as the magnitude of `d`, a finite double that is not zero. -/
def shortest (d : Double) : Decimal :=
  let (num, den) := d.quotient
  shortestFrom num den d.magnitude 20 (leadingPower num den)

/-- Digits and position of the decimal point behind the first of them, trailing zeros dropped: the
number is `0.d₁d₂… · 10 ^ position`. -/
def Decimal.layout (c : Decimal) : Text × Int :=
  let ds := Text.ofNat c.digits
  (Text.dropEndWhile (· == Code.scalar '0') ds, (ds.length : Int) + c.exponent)

/-- The exponent part of a number: a sign and at least two digits. -/
def exponentText (e : Int) : Text :=
  let ds := Text.ofNat e.natAbs
  (if e < 0 then "e-" else "e+").codes ++ (if ds.length < 2 then "0".codes ++ ds else ds)

/-- A positive number in the usual layout: positional between `10 ^ (-4)` and `10 ^ 16`, with at
least one digit on either side of the point, and else one digit, the other digits behind a point,
and an exponent. -/
def positiveText (digits : Text) (position : Int) : Text :=
  if -4 < position && position ≤ 16 then
    if position ≤ 0 then "0.".codes ++ List.replicate (-position).toNat (Code.scalar '0') ++ digits
    else
      let whole := digits.take position.toNat
      let missing := position.toNat - digits.length
      let part := digits.drop position.toNat
      whole ++ List.replicate missing (Code.scalar '0') ++ ".".codes ++
        (if part.isEmpty then "0".codes else part)
  else
    match digits with
    | [] => []
    | [d] => d :: exponentText (position - 1)
    | d :: ds => d :: '.' :: ds ++ exponentText (position - 1)

/-- The shortest text that reads back as the same double. -/
def toText (d : Double) : Text :=
  if d.isNaN then "nan".codes
  else
    let body :=
      if !d.isFinite then "inf".codes
      else if d.isZero then "0.0".codes
      else
        let (digits, position) := d.shortest.layout
        positiveText digits position
    if d.isNegative then '-' :: body else body

end Double

end CanvasPrompt
