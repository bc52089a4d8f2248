import TimingFeed.Session
import TimingFeed.Proofs.Cipher.Tracking
import Mathlib.Tactic.SplitIfs

/-!
# Runs of a session

What a session does to its parts while it takes packets: every packet is passed on, the first
ones are kept as long as there is room, and the tracker sees them all.
-/

namespace TimingFeed

namespace Session

variable (s : Session) (p : Packet) (packets : List Packet)

/-! ### One packet -/

@[simp] theorem tracker_keep : (s.keep p).1.tracker = s.tracker := by
  unfold keep
  split_ifs <;> rfl

@[simp] theorem cacheLimit_keep : (s.keep p).1.cacheLimit = s.cacheLimit := by
  unfold keep
  split_ifs <;> rfl

theorem cache_keep :
    (s.keep p).1.cache.toList =
      s.cache.toList ++ [p].take (s.cacheLimit - s.cache.toList.length) := by
  unfold keep
  split_ifs with hroom hfull
  · obtain ⟨n, hn⟩ := Nat.exists_eq_succ_of_ne_zero (Nat.sub_ne_zero_of_lt hroom)
    rw [PacketCache.size_eq_length] at hn
    rw [PacketCache.toList_push, hn, List.take_succ_cons, List.take_nil]
  all_goals
    rw [PacketCache.size_eq_length, Nat.not_lt] at hroom
    rw [Nat.sub_eq_zero_of_le hroom, List.take_zero, List.append_nil]

/-- Keeping a packet passes nothing on. -/
theorem forwarded_keep : (s.keep p).2.filterMap SessionEvent.forwarded? = [] := by
  unfold keep
  split_ifs <;> rfl

/-- Nor does a change of the status. -/
theorem forwarded_statusEvents (before after : KeyStatus) :
    (statusEvents before after).filterMap SessionEvent.forwarded? = [] := by
  unfold statusEvents
  split_ifs
  · rfl
  · cases after <;> rfl

@[simp] theorem tracker_handle : (s.handle p).1.tracker = s.tracker.observe p :=
  tracker_keep _ p

@[simp] theorem cacheLimit_handle : (s.handle p).1.cacheLimit = s.cacheLimit :=
  cacheLimit_keep _ p

theorem cache_handle :
    (s.handle p).1.cache.toList =
      s.cache.toList ++ [p].take (s.cacheLimit - s.cache.toList.length) :=
  cache_keep _ p

theorem forwarded_handle : (s.handle p).2.filterMap SessionEvent.forwarded? = [p] := by
  have hkeep := forwarded_keep { s with tracker := s.tracker.observe p } p
  have hstatus := forwarded_statusEvents s.status (s.tracker.observe p).status
  simp only [handle, List.filterMap_append, hkeep, hstatus]
  rfl

/-! ### Several packets -/

@[simp] theorem handleAll_nil : s.handleAll [] = (s, []) := rfl

theorem handleAll_cons :
    s.handleAll (p :: packets) =
      (((s.handle p).1.handleAll packets).1,
        (s.handle p).2 ++ ((s.handle p).1.handleAll packets).2) := rfl

/-- The tracker sees every packet. -/
theorem tracker_handleAll :
    (s.handleAll packets).1.tracker = (s.tracker.observeEach packets).2 := by
  induction packets generalizing s with
  | nil => rfl
  | cons p rest ih =>
    rw [handleAll_cons, ih, tracker_handle]
    rfl

/-- **Every packet is passed on, in order.** -/
theorem forwarded_handleAll :
    (s.handleAll packets).2.filterMap SessionEvent.forwarded? = packets := by
  induction packets generalizing s with
  | nil => rfl
  | cons p rest ih => rw [handleAll_cons, List.filterMap_append, forwarded_handle, ih]; rfl

/-- **The first packets are kept, as long as there is room.** -/
theorem cache_handleAll :
    (s.handleAll packets).1.cache.toList =
      s.cache.toList ++ packets.take (s.cacheLimit - s.cache.toList.length) := by
  induction packets generalizing s with
  | nil => simp
  | cons p rest ih =>
    rw [handleAll_cons, ih, cacheLimit_handle, cache_handle, List.append_assoc,
      List.length_append, ← Nat.sub_sub]
    -- Without room nothing of the rest is kept either.
    cases s.cacheLimit - s.cache.toList.length with
    | zero => simp
    | succ n => simp

end Session

end TimingFeed
