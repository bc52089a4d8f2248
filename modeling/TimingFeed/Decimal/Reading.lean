import TimingFeed.Decimal.Binary64

/-!
# Reading of decimal numbers

A number may have a sign, digits before or after a point, and a power of ten after the
letter e. Infinity and "no number" are written as words. Letters may be of either case.

* `Binary64.ofText?` reads the nearest number; one that is too large becomes an infinity.
-/

namespace TimingFeed.Binary64

/-- The digits at the start of a text, and what follows them. -/
def leadingDigits (s : List Char) : List Char × List Char :=
  (s.takeWhile Char.isDigit, s.dropWhile Char.isDigit)

/-- The power of ten at the end of a number: none, or a signed number after a letter. -/
def powerOfTen? : List Char → Option Int
  | [] => some 0
  | c :: s =>
    let (negative, ds) := Text.sign s
    if (c = 'e' ∨ c = 'E') ∧ ds ≠ [] ∧ ds.all Char.isDigit then
      some (Text.signed negative (Text.digitsValue ds))
    else none

/-- Read a number without a sign that is written with digits. -/
def ofDigits? (negative : Bool) (s : List Char) : Option Binary64 :=
  let (whole, rest) := leadingDigits s
  let (fraction, rest) := match rest with
    | '.' :: rest => leadingDigits rest
    | _ => ([], rest)
  if whole = [] ∧ fraction = [] then none
  else
    (powerOfTen? rest).map fun power =>
      ofDecimal negative (Text.digitsValue (whole ++ fraction)) (power - fraction.length)

/-- Read a number. -/
def ofText? (s : List Char) : Option Binary64 :=
  let (negative, s) := Text.sign s
  let word := s.map Char.toLower
  if word = "inf".toList ∨ word = "infinity".toList then some (infinite negative)
  else if word = "nan".toList then some nan
  else ofDigits? negative s

end TimingFeed.Binary64
