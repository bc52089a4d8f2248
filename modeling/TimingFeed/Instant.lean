/-!
# Moments and spans of time

Receipt times and waiting times, exact to the nanosecond.

* `Instant` is a moment relative to the Unix epoch, as whole seconds rounded
  down and the nanoseconds above them; every moment has one such form. The
  seconds fit a signed 64-bit word.
* `Span` is a length of time that is never negative.
-/

namespace TimingFeed

/-- The number of nanoseconds in a second. -/
abbrev nanosPerSecond : Nat := 1000000000

/-- A moment: seconds since the epoch, rounded down, and nanoseconds above them. -/
structure Instant where
  secs : Int64
  nanos : Nat
  nanos_lt : nanos < nanosPerSecond := by decide
  deriving DecidableEq, Repr

/-- The Unix epoch. -/
def Instant.epoch : Instant := ⟨0, 0, by decide⟩

instance : Inhabited Instant := ⟨.epoch⟩

/-- The moment `secs` seconds and `nanos` nanoseconds after the epoch; surplus
nanoseconds carry into the seconds. -/
def Instant.ofParts (secs : Int64) (nanos : Nat) : Instant :=
  ⟨secs + .ofNat (nanos / nanosPerSecond), nanos % nanosPerSecond, Nat.mod_lt _ (by decide)⟩

@[simp] theorem Instant.ofParts_self (t : Instant) : Instant.ofParts t.secs t.nanos = t := by
  cases t with
  | mk s n h => simp [Instant.ofParts, Nat.div_eq_of_lt h, Nat.mod_eq_of_lt h]

/-- A length of time: whole seconds and the nanoseconds above them. -/
structure Span where
  secs : Nat
  nanos : Nat
  nanos_lt : nanos < nanosPerSecond := by decide
  deriving DecidableEq, Repr

/-- The span of so many seconds and nanoseconds; surplus nanoseconds carry. -/
def Span.ofParts (secs nanos : Nat) : Span :=
  ⟨secs + nanos / nanosPerSecond, nanos % nanosPerSecond, Nat.mod_lt _ (by decide)⟩

/-- The span of so many milliseconds. -/
def Span.ofMillis (millis : Nat) : Span :=
  ⟨millis / 1000, millis % 1000 * 1000000, by simp only [nanosPerSecond]; omega⟩

/-- The whole milliseconds in a span. -/
def Span.millis (d : Span) : Nat := d.secs * 1000 + d.nanos / 1000000

@[simp] theorem Span.millis_ofMillis (n : Nat) : (Span.ofMillis n).millis = n := by
  simp only [Span.millis, Span.ofMillis]
  omega

/-- A span in milliseconds, rounded up. -/
def Span.millisUp (d : Span) : Nat :=
  if d.nanos % 1000000 = 0 then d.millis else d.millis + 1

/-- These are the fewest milliseconds in which the span passes. -/
theorem Span.millisUp_le_iff (d : Span) (n : Nat) :
    d.millisUp ≤ n ↔ d.secs * nanosPerSecond + d.nanos ≤ n * 1000000 := by
  simp only [Span.millisUp, Span.millis, nanosPerSecond]
  split <;> omega

/-- A span is zero when it holds neither seconds nor nanoseconds. -/
def Span.isZero (d : Span) : Bool := d.secs == 0 && d.nanos == 0

end TimingFeed
