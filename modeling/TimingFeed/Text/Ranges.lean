/-!
# Sets of characters as ranges

A set of characters is a list of ranges of code points, both ends included, in ascending
order and apart. A range may go on over code points that are no characters.
-/

namespace TimingFeed.Text

/-- Ranges of code points with both ends. -/
abbrev CharRanges := List (Nat × Nat)

namespace CharRanges

/-- Whether a character lies in one of the ranges. -/
def holds (rs : CharRanges) (c : Char) : Bool :=
  rs.any fun r => r.1 ≤ c.toNat && c.toNat ≤ r.2

/-- Whether the ranges are in ascending order and apart. -/
def isAscending : CharRanges → Bool
  | [] => true
  | [r] => r.1 ≤ r.2
  | r :: s :: rest => r.1 ≤ r.2 && r.2 + 1 < s.1 && isAscending (s :: rest)

end CharRanges

end TimingFeed.Text
