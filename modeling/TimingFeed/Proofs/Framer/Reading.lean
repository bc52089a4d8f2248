import TimingFeed.Proofs.Framer.Chunking

/-!
# Chunks read on demand

A chunk can be read one item at a time. Main statement: `Reading.nextUpTo_start`. Read to its
end, it gives what `Framer.feed` gives for the whole chunk.
-/

namespace TimingFeed

namespace Framer

variable (time : Instant) (f : Framer)

/-- A run is its first item followed by a run over what was not read. -/
theorem pushAll_eq_pushUntil (bytes : List UInt8) :
    pushAll time f bytes =
      match pushUntil time f bytes with
      | (none, g, rest) => ([], g, rest)
      | (some (.ok p), g, rest) => (.ok p :: (pushAll time g rest).1, (pushAll time g rest).2)
      | (some (.error e), g, rest) => ([.error e], g, rest) := by
  fun_induction pushUntil time f bytes with
  | case1 => rfl
  | case2 f b rest g hpush ih => rw [pushAll_cons_of_none time hpush, ih]
  | case3 f b rest g item hpush =>
    cases item with
    | ok p => exact pushAll_cons_of_ok time hpush rest
    | error e => exact pushAll_cons_of_error time hpush rest

/-- Looking for a packet does not poison a framer. -/
theorem poisoned_pushUntil_of_ok {bytes rest : List UInt8} {g : Framer} {p : Packet}
    (h : pushUntil time f bytes = (some (.ok p), g, rest)) : g.poisoned = f.poisoned := by
  fun_induction pushUntil time f bytes with
  | case1 => cases h
  | case2 f b rest g hpush ih => rw [ih h, eq_of_push_none time hpush]
  | case3 f b rest g item hpush =>
    cases h
    rw [(eq_of_push_ok time hpush).1]

end Framer

namespace Reading

variable (time : Instant)

theorem nextUpTo_of_ended {r : Reading} (h : r.ended = true) {n : Nat} (hn : 0 < n) :
    r.nextUpTo n = ([], r, true) := by
  obtain ⟨n, rfl⟩ := Nat.exists_eq_add_one.2 hn
  simp [nextUpTo, next, h]

/-- An error is the last item. -/
theorem nextUpTo_of_error {f g : Framer} {bytes rest : List UInt8} {e : FrameError}
    (h : f.pull time bytes = (some (.error e), g, rest)) {n : Nat} (hn : 1 < n) :
    (start f time bytes).nextUpTo n =
      ([.error e], { framer := g, time, unread := rest, ended := true }, true) := by
  obtain ⟨n, rfl⟩ := Nat.exists_eq_add_one.2 (Nat.zero_lt_of_lt hn)
  have hended := nextUpTo_of_ended
    (r := { framer := g, time, unread := rest, ended := true }) rfl (show 0 < n by omega)
  simp [nextUpTo, next, start, h, hended]

/-- **A chunk read on demand to its end gives the items of the whole chunk**, and leaves the
same framer and the same bytes unread. -/
theorem nextUpTo_start (f : Framer) (bytes : List UInt8) {n : Nat}
    (h : (f.feed time bytes).1.length < n) :
    (start f time bytes).nextUpTo n =
      ((f.feed time bytes).1,
        { framer := (f.feed time bytes).2.1, time, unread := (f.feed time bytes).2.2,
          ended := true }, true) := by
  cases hf : f.poisoned with
  | true =>
    rw [Framer.feed_of_poisoned time hf] at h ⊢
    exact nextUpTo_of_error time (by rw [Framer.pull, if_pos hf]) h
  | false =>
    rw [Framer.feed_of_sound time hf] at h ⊢
    induction n generalizing f bytes with
    | zero => omega
    | succ n ih =>
      have hpull : f.pull time bytes = Framer.pushUntil time f bytes := by
        rw [Framer.pull, if_neg (by simp [hf])]
      have hrun := Framer.pushAll_eq_pushUntil time f bytes
      rcases huntil : Framer.pushUntil time f bytes with ⟨_ | e | p, g, rest⟩ <;>
        rw [huntil] at hrun hpull <;> rw [hrun] at h ⊢
      · simp [nextUpTo, next, start, hpull]
      · exact nextUpTo_of_error time hpull h
      · have hg := (Framer.poisoned_pushUntil_of_ok time f huntil).trans hf
        have hrest := ih g rest (by simpa using h) hg
        simp only [nextUpTo, next, start, hpull] at hrest ⊢
        simp [hrest]

end Reading

end TimingFeed
