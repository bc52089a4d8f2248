/-!
# Depths of nested constructs

The depth of a construct is the number of constructs one within the other, itself
included. Parts in a row are a construct of their own if there are at least two of them.

* `PartDepths.depth` is the depth of some parts in a row.
-/

namespace TimingFeed

/-- The depths of parts in a row: how many parts there are, and the greatest depth. -/
structure PartDepths where
  count : Nat := 0
  deepest : Nat := 0
  deriving DecidableEq, Repr

namespace PartDepths

/-- One more part. -/
def add (p : PartDepths) (depth : Nat) : PartDepths := ⟨p.count + 1, max p.deepest depth⟩

/-- The depth of the row. -/
def depth (p : PartDepths) : Nat := if 2 ≤ p.count then p.deepest + 1 else p.deepest

theorem deepest_le_depth (p : PartDepths) : p.deepest ≤ p.depth := by
  unfold depth
  split <;> omega

theorem le_depth_add (p : PartDepths) (d : Nat) : d ≤ (p.add d).depth :=
  Nat.le_trans (Nat.le_max_right ..) (deepest_le_depth (p.add d))

end PartDepths

end TimingFeed
