import TimingFeed.Proofs.Cipher.Recovery
import TimingFeed.Proofs.Cipher.Tracking
import Mathlib.Data.List.DropRight

/-!
# The course of a search

Whatever packets a tracker sees and whenever it is reset, its status follows a few rules. Main
statement: `status_afterAll`. A known key ends only with a reset, a failure with a reset or a
restart of the cipher; a solve has absorbed every hidden byte since the last restart; and the
search is at its start exactly when nothing was learnt or tried.

* `Tracker.Event` is a packet or a reset, `Tracker.afterAll` a run of them;
* `KeySearch.Counts n` is the invariant: what a search holds after `n` hidden bytes;
* `Counts.observe` keeps it over one packet, `counts_afterAll` over a whole run.
-/

namespace TimingFeed

open Solver

namespace KeySearch

variable {m : Marker} {s : KeySearch} {p : Packet} {n : Nat}

/-! ### The invariant -/

/-- What a search holds after `n` hidden bytes since the last restart. -/
inductive Counts (n : Nat) : KeySearch → Prop
  | start (none : n = 0) : Counts n .start
  | solving {solver : Solver} {seen : List (UInt8 × Known)} (tracks : solver.Tracks seen)
      (length : seen.length = n) (some : 0 < n) (short : n < fullBytes) :
      Counts n (.solving solver)
  | recovered (key : Word) : Counts n (.recovered key)
  | inClear : Counts n .inClear
  | failed (cause : RecoveryError) (some : 0 < n) : Counts n (.failed cause)

/-- A solve that has absorbed all bytes unless it is complete. -/
theorem counts_settle {solver : Solver} {seen : List (UInt8 × Known)} (h : solver.Tracks seen)
    (hn : 0 < n) (hlength : seen.length < fullBytes → seen.length = n) :
    Counts n (settle solver) := by
  by_cases hfull : fullBytes ≤ seen.length
  · rw [settle, if_pos (h.isComplete_iff.2 hfull)]
    exact .recovered _
  · have hlt := Nat.lt_of_not_le hfull
    rw [settle, if_neg fun hc => hfull (h.isComplete_iff.1 hc)]
    exact .solving h (hlength hlt) hn (hlength hlt ▸ hlt)

/-- The first hidden bytes anchor a search, or end it. -/
theorem counts_anchor (hne : p.payload ≠ []) : Counts p.payload.length (anchor m p) := by
  have hpos := List.length_pos_iff.2 hne
  unfold anchor
  split
  · exact .inClear
  · next hanchor =>
    obtain ⟨hlen, htracks⟩ := Marker.tracks_of_anchor hanchor
    exact counts_settle htracks hpos fun _ => Marker.length_keystreamUnder hlen
  · exact .failed _ hpos

/-- A solve takes all bytes of a packet as long as key bits are left to fix. -/
theorem counts_extend {solver : Solver} {seen : List (UInt8 × Known)} (h : solver.Tracks seen)
    (hseen : 0 < seen.length) :
    Counts (seen.length + p.payload.length) (extend solver p) := by
  have hpos : 0 < seen.length + p.payload.length := Nat.add_pos_left hseen _
  have hne : seen ≠ [] := List.length_pos_iff.1 hseen
  unfold extend
  split
  · exact .failed _ hpos
  · rw [h.extend_eq hne]
    rcases h.absorbAll ((p.payload.take (fullBytes - seen.length)).map fun b => (b, .topBit))
        fun h0 => absurd h0 hne with ⟨t, ht, htracks⟩ | ⟨i, -, hi, -⟩
    · rw [ht]
      refine counts_settle htracks hpos fun hlt => ?_
      rw [List.length_append, List.length_map, List.length_take] at hlt ⊢
      omega
    · rw [hi]
      exact .failed _ hpos

theorem Counts.advance (h : s.Counts n) (hne : p.payload ≠ []) :
    Counts (n + p.payload.length) (s.advance m p) := by
  cases h with
  | start none =>
    rw [none, Nat.zero_add]
    exact counts_anchor hne
  | solving tracks length some short =>
    subst length
    exact counts_extend tracks some
  | recovered key => exact .recovered key
  | inClear => exact .inClear
  | failed cause some => exact .failed cause (Nat.add_pos_left some _)

/-- **A packet that does not restart the cipher adds its hidden bytes.** -/
theorem Counts.observe (h : s.Counts n) (hp : p.restartsCipher = false) :
    Counts (n + p.hidden.length) (s.observe m p) := by
  by_cases hempty : p.hidden = []
  · rw [observe_of_hidden_eq_nil m s hp hempty, hempty]
    exact h
  · obtain ⟨hobserve, hpayload⟩ := observe_of_hidden_ne_nil m s hp hempty
    rw [hobserve, ← hpayload]
    exact h.advance (hpayload ▸ hempty)

/-- **One that does starts the count anew.** -/
theorem Counts.observe_restart (h : s.Counts n) (hp : p.restartsCipher = true) :
    Counts 0 (s.observe m p) := by
  rw [KeySearch.observe, if_pos hp]
  cases h with
  | start => exact .start rfl
  | solving => exact .start rfl
  | recovered key => exact .recovered key
  | inClear => exact .inClear
  | failed => exact .start rfl

/-! ### What the invariant shows -/

/-- A solve has seven bits more than bytes, and at least one bit is open. -/
theorem Counts.inProgress (h : s.Counts n) {bits : Nat} (hs : s.status = .inProgress bits) :
    8 ≤ bits ∧ bits ≤ 31 ∧ bits - 7 = n := by
  cases h with
  | @solving solver seen tracks length some short =>
    obtain rfl : solver.resolved = bits := KeyStatus.inProgress.inj hs
    have hlen : seen.length ≠ 0 := by omega
    have hbits : solver.resolved = n + 7 := by
      rw [tracks.resolved, bitsAfter, if_neg hlen, length, Nat.min_eq_left]
      exact Nat.le_of_lt (Nat.add_lt_add_right short 7)
    rw [fullBytes] at short
    omega
  | _ => cases hs

/-- A search is at its start when it has seen no hidden byte and knows no key. -/
theorem Counts.start_iff (h : s.Counts n) :
    s.status = .start ↔ s.status.key? = none ∧ n = 0 := by
  cases h with
  | start none => exact iff_of_true rfl ⟨rfl, none⟩
  | solving tracks length some short => exact iff_of_false nofun fun h => some.ne' h.2
  | recovered key => exact iff_of_false nofun fun h => nomatch h.1
  | inClear => exact iff_of_false nofun fun h => nomatch h.1
  | failed cause some => exact iff_of_false nofun fun h => some.ne' h.2

/-- A known key, also that of a feed in clear, stays over any packet. -/
theorem observe_of_key (h : s.status.key? ≠ none) (p : Packet) : s.observe m p = s := by
  cases s with
  | recovered key => exact observe_recovered m key p
  | inClear => simp [observe, restart, KeySearch.advance]
  | start => exact absurd rfl h
  | solving solver => exact absurd rfl h
  | failed cause => exact absurd rfl h

/-- A failure stays until the cipher restarts. -/
theorem observe_failed (cause : RecoveryError) (p : Packet) :
    (failed cause).observe m p = if p.restartsCipher then start else failed cause := by
  unfold observe
  split
  · rfl
  · split <;> rfl

end KeySearch

namespace Tracker

/-! ### Runs -/

/-- What can happen to a tracker. -/
inductive Event
  | packet (packet : Packet)
  | reset
  deriving DecidableEq

namespace Event

/-- Whether the keystream is at its start after the event, or the search was given up. -/
def restarts : Event → Bool
  | packet p => p.restartsCipher
  | reset => true

/-- The packet of an event, if it has one. -/
def packet? : Event → Option Packet
  | packet p => some p
  | reset => none

end Event

/-- The tracker after an event. -/
def after (t : Tracker) : Event → Tracker
  | .packet p => t.observe p
  | .reset => t.reset

/-- The tracker after several events. -/
def afterAll (t : Tracker) (events : List Event) : Tracker := events.foldl after t

/-- The packets since the last restart, or since the beginning. -/
def sinceRestart (events : List Event) : List Packet :=
  (events.rtakeWhile fun e => !e.restarts).filterMap Event.packet?

section SinceRestart

variable (events : List Event) {p : Packet}

@[simp] theorem sinceRestart_nil : sinceRestart [] = [] := rfl

@[simp] theorem sinceRestart_reset : sinceRestart (events ++ [.reset]) = [] := by
  rw [sinceRestart, List.rtakeWhile_concat_neg _ _ _ (by simp [Event.restarts]),
    List.filterMap_nil]

theorem sinceRestart_restart (hp : p.restartsCipher = true) :
    sinceRestart (events ++ [.packet p]) = [] := by
  rw [sinceRestart, List.rtakeWhile_concat_neg _ _ _ (by simp [Event.restarts, hp]),
    List.filterMap_nil]

theorem sinceRestart_packet (hp : p.restartsCipher = false) :
    sinceRestart (events ++ [.packet p]) = sinceRestart events ++ [p] := by
  rw [sinceRestart, List.rtakeWhile_concat_pos _ _ _ (by simp [Event.restarts, hp]),
    List.filterMap_append]
  rfl

end SinceRestart

variable (t : Tracker)

@[simp] theorem afterAll_nil : t.afterAll [] = t := rfl

@[simp] theorem afterAll_append (events more : List Event) :
    t.afterAll (events ++ more) = (t.afterAll events).afterAll more := List.foldl_append

@[simp] theorem afterAll_singleton (e : Event) : t.afterAll [e] = t.after e := rfl

@[simp] theorem marker_after (e : Event) : (t.after e).marker = t.marker := by
  cases e <;> rfl

/-- **After any run the search has counted the hidden bytes since the last restart.** -/
theorem counts_afterAll (m : Marker) (events : List Event) :
    (({ marker := m } : Tracker).afterAll events).search.Counts
      (hiddenBytes (sinceRestart events)).length := by
  induction events using List.reverseRecOn with
  | nil => exact .start rfl
  | append_singleton events e ih =>
    rw [afterAll_append, afterAll_singleton]
    cases e with
    | reset =>
      rw [sinceRestart_reset]
      exact .start rfl
    | packet p =>
      cases hp : p.restartsCipher with
      | true =>
        rw [sinceRestart_restart events hp]
        exact ih.observe_restart hp
      | false =>
        rw [sinceRestart_packet events hp, hiddenBytes_append, List.length_append, hiddenBytes_cons,
          hiddenBytes_nil, List.append_nil]
        exact ih.observe hp

/-- Without a reset a known key stays. -/
theorem afterAll_of_key {t : Tracker} (h : t.key? ≠ none) {events : List Event}
    (hreset : .reset ∉ events) : t.afterAll events = t := by
  induction events with
  | nil => rfl
  | cons e events ih =>
    rw [List.mem_cons, not_or] at hreset
    have hstay : t.after e = t := by
      cases e with
      | packet p => rw [after, observe, KeySearch.observe_of_key h]
      | reset => exact absurd rfl hreset.1
    rw [← List.singleton_append, afterAll_append, afterAll_singleton, hstay, ih hreset.2]

/-- A key is known exactly if it became known at some point after the last reset. -/
theorem key?_afterAll_eq_none_iff (events : List Event) :
    (t.afterAll events).key? = none ↔
      ∀ earlier later, events = earlier ++ later → .reset ∉ later →
        (t.afterAll earlier).key? = none := by
  constructor
  · rintro h earlier later rfl hreset
    by_contra hkey
    rw [afterAll_append, afterAll_of_key hkey hreset] at h
    exact hkey h
  · intro h
    exact h events [] (List.append_nil events).symm List.not_mem_nil

/-- **The rules of the status.** A marker and any run of packets and resets are given; `t` is the
tracker after it. A known key, or a feed known to be in clear, stays over all events but a reset.
A failure stays until a packet restarts the cipher. A reset brings everything to the start. A
solve in progress has 8 to 31 bits, seven more than the hidden bytes since the last restart. And
the search is at its start exactly if since the last reset no key was ever known and since the
last restart no packet had hidden bytes. -/
theorem status_afterAll (m : Marker) (events : List Event) :
    let fresh : Tracker := { marker := m }
    let t := fresh.afterAll events
    (∀ later, ((∃ key, t.status = .recovered key) ∨ t.status = .inClear) → .reset ∉ later →
        (t.afterAll later).status = t.status) ∧
      (∀ cause p, t.status = .failed cause →
        (t.observe p).status = if p.restartsCipher then .start else .failed cause) ∧
      t.reset.status = .start ∧
      (∀ bits, t.status = .inProgress bits →
        8 ≤ bits ∧ bits ≤ 31 ∧ bits - 7 = (hiddenBytes (sinceRestart events)).length) ∧
      (t.status = .start ↔
        (∀ earlier later, events = earlier ++ later → .reset ∉ later →
          (fresh.afterAll earlier).key? = none) ∧
        ∀ p ∈ sinceRestart events, ¬ (p.isEncrypted = true ∧ p.payload ≠ [])) := by
  intro fresh t
  have hcounts : t.search.Counts (hiddenBytes (sinceRestart events)).length :=
    counts_afterAll m events
  have hnever : t.key? = none ↔ _ := key?_afterAll_eq_none_iff fresh events
  clear_value t
  refine ⟨?_, ?_, rfl, ?_, ?_⟩
  · intro later hknown hreset
    have hkey : t.key? ≠ none := by
      rcases hknown with ⟨key, hs⟩ | hs
      · rw [key?, hs]
        exact Option.some_ne_none key
      · rw [key?, hs]
        exact Option.some_ne_none 0#32
    rw [afterAll_of_key hkey hreset]
  · intro cause p hs
    have hfailed : t.search = .failed cause := by
      cases hsearch : t.search <;> rw [status, hsearch] at hs <;> cases hs
      rfl
    rw [status, observe, hfailed, KeySearch.observe_failed]
    split <;> rfl
  · intro bits hs
    exact hcounts.inProgress hs
  · have hquiet : (hiddenBytes (sinceRestart events)).length = 0 ↔
        ∀ p ∈ sinceRestart events, ¬ (p.isEncrypted = true ∧ p.payload ≠ []) := by
      rw [List.length_eq_zero_iff, hiddenBytes, List.flatMap_eq_nil_iff]
      simp only [Packet.hidden_eq_nil_iff, not_and, not_not]
    rw [← hquiet, ← hnever]
    exact hcounts.start_iff

/-- An event, the notice and two values, hidden under one key. -/
def twoValueEvents : List Event :=
  ((Keystream.start 0xC0FFEE42#32).replay (openingEvent :: openingNotice :: twoValues)).map .packet

/-- The first value is absorbed, the second one ends the solve and an event keeps the key; a
second notice is a failure, which an event ends. -/
theorem status_afterAll_two_values :
    26 - 7 = (hiddenBytes (sinceRestart (twoValueEvents.take 3))).length ∧
      ((({ marker := .pleaseWait } : Tracker).afterAll twoValueEvents).afterAll
          [.packet openingEvent]).status =
        (({ marker := .pleaseWait } : Tracker).afterAll twoValueEvents).status ∧
      ((({ marker := .pleaseWait } : Tracker).afterAll
          (twoValueEvents.take 2 ++ [.packet openingNotice])).observe openingEvent).status =
        .start := by
  have hsolving :=
    (status_afterAll .pleaseWait (twoValueEvents.take 3)).2.2.2.1 26 (by decide +kernel)
  have hknown := (status_afterAll .pleaseWait twoValueEvents).1 [.packet openingEvent]
    (.inl ⟨0xC0FFEE42#32, by decide +kernel⟩) (by simp)
  have hfailed :=
    (status_afterAll .pleaseWait (twoValueEvents.take 2 ++ [.packet openingNotice])).2.1
      (.unreliablePlaintext 6) openingEvent (by decide +kernel)
  rw [if_pos (by decide)] at hfailed
  exact ⟨hsolving.2.2, hknown, hfailed⟩

end Tracker

end TimingFeed
