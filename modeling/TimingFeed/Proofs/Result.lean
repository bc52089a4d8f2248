/-!
# Results of several steps

A result that is good comes from steps that were good, and the first step that is not gives the
error.
-/

namespace TimingFeed

section Result

variable {ε α β : Type} {x : Except ε α}

/-- A result that is mapped to a good one was good. -/
theorem map_eq_ok_iff {f : α → β} {b : β} : x.map f = .ok b ↔ ∃ a, x = .ok a ∧ f a = b := by
  cases x <;> simp [Except.map]

theorem bind_eq_ok_iff {f : α → Except ε β} {b : β} :
    x >>= f = .ok b ↔ ∃ a, x = .ok a ∧ f a = .ok b := by
  cases x <;> simp [bind, Except.bind]

end Result

end TimingFeed
