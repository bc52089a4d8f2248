/-!
# Decimal numbers in text

Reading of bounded numbers, as settings and log levels hold them: an optional sign, then
one or more ASCII digits, and nothing else.

* `digitsValue` is the number that a list of digits stands for;
* `readUnsigned max` reads a number of at most `max`, with a plus sign or none;
* `readInteger low high` reads a number within bounds, with either sign or none.
-/

namespace TimingFeed.Text

/-- The value of an ASCII digit. -/
def digitValue (c : Char) : Nat := c.toNat - '0'.toNat

/-- The number that a list of digits stands for, most significant first. -/
def digitsValue (ds : List Char) : Nat :=
  ds.foldl (fun n c => 10 * n + digitValue c) 0

/-- The text after an optional plus sign. -/
def afterPlus : List Char → List Char
  | '+' :: rest => rest
  | s => s

/-- Read an unsigned number of at most `max`. -/
def readUnsigned (max : Nat) (s : List Char) : Option Nat :=
  let ds := afterPlus s
  if ds ≠ [] ∧ ds.all Char.isDigit ∧ digitsValue ds ≤ max then some (digitsValue ds) else none

/-- A sign, and whether it is a minus. -/
def sign : List Char → Bool × List Char
  | '-' :: rest => (true, rest)
  | '+' :: rest => (false, rest)
  | s => (false, s)

/-- The number of some digits with or without a minus. -/
def signed (negative : Bool) (n : Nat) : Int := if negative then -(n : Int) else n

/-- Read a number from `low` to `high`. -/
def readInteger (low high : Int) (s : List Char) : Option Int :=
  let (negative, ds) := sign s
  let n := signed negative (digitsValue ds)
  if ds ≠ [] ∧ ds.all Char.isDigit ∧ low ≤ n ∧ n ≤ high then some n else none

theorem readUnsigned_le {max n : Nat} {s : List Char} (h : readUnsigned max s = some n) :
    n ≤ max := by
  simp only [readUnsigned] at h
  split at h
  · next hc => cases h; exact hc.2.2
  · cases h

theorem readInteger_mem {low high n : Int} {s : List Char} (h : readInteger low high s = some n) :
    low ≤ n ∧ n ≤ high := by
  simp only [readInteger] at h
  split at h
  · next hc => cases h; exact hc.2.2
  · cases h

@[simp] theorem readUnsigned_nil (max : Nat) : readUnsigned max [] = none := by
  simp [readUnsigned, afterPlus]

end TimingFeed.Text
