/-!
# Hexadecimal numbers in text

Fixed-width and shortest hexadecimal forms of a number, in either case of letters, and the
numbers and characters that hexadecimal digits stand for.
-/

namespace TimingFeed.Text

/-- Whether the digits above nine are small or capital letters. -/
inductive LetterCase
  | lower
  | upper
  deriving DecidableEq, Repr

/-- The hexadecimal digit of a number below sixteen. -/
def hexDigit (c : LetterCase) (n : Nat) : Char :=
  if n < 10 then Char.ofNat ('0'.toNat + n)
  else match c with
    | .lower => Char.ofNat ('a'.toNat + (n - 10))
    | .upper => Char.ofNat ('A'.toNat + (n - 10))

/-- The lowest `width` hexadecimal digits of a number, most significant first. -/
def hexFixed (c : LetterCase) : Nat → Nat → List Char
  | 0, _ => []
  | width + 1, n => hexFixed c width (n / 16) ++ [hexDigit c (n % 16)]

/-- How many hexadecimal digits a number needs, at least one. -/
def hexWidth (n : Nat) : Nat := n.log2 / 4 + 1

/-- The shortest hexadecimal form of a number. -/
def hexShort (c : LetterCase) (n : Nat) : List Char := hexFixed c (hexWidth n) n

/-- The value of a hexadecimal digit. -/
def hexValue? (c : Char) : Option Nat :=
  if c.isDigit then some (c.toNat - '0'.toNat)
  else if 'a' ≤ c ∧ c ≤ 'f' then some (c.toNat - 'a'.toNat + 10)
  else if 'A' ≤ c ∧ c ≤ 'F' then some (c.toNat - 'A'.toNat + 10)
  else none

/-- The number that hexadecimal digits stand for. -/
def hexNumber? (ds : List Char) : Option Nat :=
  ds.foldlM (fun n c => (hexValue? c).map (16 * n + ·)) 0

/-- The character with a code point given in hexadecimal. -/
def codePoint? (ds : List Char) : Option Char :=
  (hexNumber? ds).bind fun n => if h : n.isValidChar then some (Char.ofNatAux n h) else none

@[simp] theorem length_hexFixed (c : LetterCase) (width n : Nat) :
    (hexFixed c width n).length = width := by
  induction width generalizing n with
  | zero => rfl
  | succ width ih => simp [hexFixed, ih]

end TimingFeed.Text
