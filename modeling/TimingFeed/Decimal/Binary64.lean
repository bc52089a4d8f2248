import TimingFeed.Text.Integer

/-!
# Binary64 numbers

Numbers with a 53-bit significand, as exact integers, and their decimal text.

* `Binary64.ofDecimal` rounds a decimal number to the nearest of them, a tie to
  the even significand;
* `Binary64.shortest` is the decimal number with the fewest digits that rounds
  back to the given one, the nearest of those and of two nearest the greater one;
* `Binary64.shortText` writes it without an exponent, `Binary64.text` with at least one
  digit after the point;
* `Binary64.position` is its place among all numbers.
-/

namespace TimingFeed

/-- A number: significand times a power of two, an infinity, or no number. -/
inductive Binary64
  | finite (negative : Bool) (significand : Nat) (exponent : Int)
  | infinite (negative : Bool)
  | nan
  deriving DecidableEq, Repr

namespace Binary64

/-- The smallest exponent of a finite number. -/
def minExponent : Int := -1074

/-- The largest exponent of a finite number. -/
def maxExponent : Int := 971

/-- The number of bits in a significand. -/
def precision : Nat := 53

/-- A fraction scaled by a power of `base`: numerator and denominator. -/
def scaled (num den base : Nat) (e : Int) : Nat × Nat :=
  if 0 ≤ e then (num * base.pow e.toNat, den) else (num, den * base.pow (-e).toNat)

/-- A quotient rounded to the nearest integer, a tie to the even one. -/
def roundHalfEven (num den : Nat) : Nat :=
  let q := num / den
  let twice := 2 * (num % den)
  if twice < den ∨ twice = den ∧ q % 2 = 0 then q else q + 1

/-- A positive fraction rounded to the nearest number. -/
def ofFraction (negative : Bool) (num den : Nat) : Binary64 :=
  let guess : Int := (num.log2 : Int) - den.log2 - precision
  let significandAt (e : Int) : Nat :=
    let f := scaled num den 2 (-e)
    f.1 / f.2
  let e := if significandAt guess < Nat.pow 2 precision then guess else guess + 1
  let e := max e minExponent
  let f := scaled num den 2 (-e)
  let m := roundHalfEven f.1 f.2
  let (m, e) := if m = Nat.pow 2 precision then (Nat.pow 2 (precision - 1), e + 1) else (m, e)
  if maxExponent < e then infinite negative else finite negative m e

/-- The number of decimal digits of a positive number. -/
def decimalWidth (n : Nat) : Nat := (Nat.toDigits 10 n).length

/-- The number nearest to `digits * 10 ^ e`. A power out of reach is not computed. -/
def ofDecimal (negative : Bool) (digits : Nat) (e : Int) : Binary64 :=
  let magnitude := (decimalWidth digits : Int) + e
  if digits = 0 ∨ magnitude < -400 then finite negative 0 minExponent
  else if 400 < magnitude then infinite negative
  else
    let f := scaled digits 1 10 e
    ofFraction negative f.1 f.2

/-- The fewest digits `d` and the power `e` such that `d * 10 ^ e` rounds to
`significand * 2 ^ exponent`; of two such numbers the nearer one, on a tie the greater. -/
def shortest (significand : Nat) (exponent : Int) : Nat × Int :=
  -- Four times the value and its rounding interval have integer significands.
  let lowGap : Nat :=
    if significand = Nat.pow 2 (precision - 1) ∧ minExponent < exponent then 1 else 2
  let value := scaled (4 * significand) 4 2 exponent
  let low := scaled (4 * significand - lowGap) 4 2 exponent
  let high := scaled (4 * significand + 2) 4 2 exponent
  let closed := significand % 2 = 0
  let width : Int := (decimalWidth (value.1 * Nat.pow 10 400 / value.2) : Int) - 400
  let inside (d : Nat) (e : Int) : Bool :=
    let p := scaled d 1 10 e
    let overLow := low.1 * p.2
    let overHigh := high.1 * p.2
    let lowPoint := p.1 * low.2
    let highPoint := p.1 * high.2
    if closed then overLow ≤ lowPoint && highPoint ≤ overHigh
    else overLow < lowPoint && highPoint < overHigh
  let candidate (n : Nat) : Option (Nat × Int) :=
    let e := width - n
    let f := scaled value.1 value.2 10 (-e)
    let down := f.1 / f.2
    let downFirst := 2 * (f.1 % f.2) < f.2
    let first := if downFirst then down else down + 1
    let second := if downFirst then down + 1 else down
    if inside first e then some (first, e)
    else if inside second e then some (second, e)
    else none
  ((List.range 17).findSome? fun i => candidate (i + 1)).getD (significand, 0)

/-- The digits of a number, zeros at its end dropped into the power of ten. -/
def trimZeros : Nat → Nat → Int → Nat × Int
  | 0, d, e => (d, e)
  | n + 1, d, e => if d ≠ 0 ∧ d % 10 = 0 then trimZeros n (d / 10) (e + 1) else (d, e)

/-- Write `d * 10 ^ e` without an exponent. -/
def positional (d : Nat) (e : Int) : String :=
  let ds := Nat.toDigits 10 d
  if 0 ≤ e then String.ofList (ds ++ List.replicate e.toNat '0')
  else
    let places := (-e).toNat
    let padded := List.replicate (places + 1 - ds.length) '0' ++ ds
    let split := padded.length - places
    String.ofList (padded.take split ++ '.' :: padded.drop split)

/-- The shortest decimal form of a finite number without its sign. -/
def decimal (significand : Nat) (exponent : Int) : Nat × Int :=
  if significand = 0 then (0, 0)
  else
    let s := shortest significand exponent
    trimZeros 20 s.1 s.2

/-- The shortest text of a number; a whole number has no point. -/
def shortText : Binary64 → String
  | nan => "NaN"
  | infinite negative => if negative then "-inf" else "inf"
  | finite negative significand exponent =>
    let d := decimal significand exponent
    (if negative then "-" else "") ++ positional d.1 d.2

/-- Whether the shortest text of a number is that of a whole number. -/
def isWhole : Binary64 → Bool
  | nan | infinite _ => false
  | finite _ significand exponent => 0 ≤ (decimal significand exponent).2

/-- The shortest text of a number, with at least one digit after the point. -/
def text (x : Binary64) : String := if x.isWhole then x.shortText ++ ".0" else x.shortText

/-- Where a number lies, in units of the smallest positive one; an infinity lies beyond
all finite numbers, and the two zeros lie in one place. -/
def position : Binary64 → Int
  | nan => 0
  | infinite negative => Text.signed negative (Nat.pow 2 2100)
  | finite negative significand exponent =>
    Text.signed negative (significand * Nat.pow 2 (exponent - minExponent).toNat)

end Binary64

end TimingFeed
