/-!
# White space

The characters that count as white space at the ends of a setting: those with the
Unicode property White_Space. The zero-width no-break space is not one of them.

* `isBlank` is the class, `trim` takes it off both ends.
-/

namespace TimingFeed.Text

/-- The property White_Space. -/
def isBlank (c : Char) : Bool :=
  let n := c.toNat
  0x09 ≤ n && n ≤ 0x0d || n = 0x20 || n = 0x85 || n = 0xa0 || n = 0x1680 ||
    0x2000 ≤ n && n ≤ 0x200a || n = 0x2028 || n = 0x2029 || n = 0x202f || n = 0x205f ||
    n = 0x3000

/-- The text without white space at its start. -/
def trimStart (s : List Char) : List Char := s.dropWhile isBlank

/-- The text without white space at its ends. -/
def trim (s : List Char) : List Char := (trimStart (trimStart s).reverse).reverse

/-- Every character of the narrower class of ASCII blanks is white space. -/
theorem isBlank_of_isWhitespace {c : Char} (h : c.isWhitespace = true) : isBlank c = true := by
  simp only [Char.isWhitespace, Bool.or_eq_true, decide_eq_true_eq] at h
  rcases h with ((h | h) | h) | h <;> subst h <;> decide

end TimingFeed.Text
