import TimingFeed.Proofs.Connection.Operations

/-!
# A signal loses nothing

A signal can come at any time: before the first poll, while a run waits for data, or while it
writes a keep-alive byte. Main statement: `runUntil_delivers`. The blocks that were read before
the signal have been framed to their last byte, and the bytes that were not read are still to
come.

* `packets_of_poll`: a poll counts the packets that it delivers, and `Ends.total_eq` sums this up
  over a run;
* `Ends.closed`: a run that does not fail leaves its poller closed, and `pollEach_of_closed` says
  that nothing happens from then on.
-/

namespace TimingFeed

namespace Polling

variable {s : Polling} {a : Account} {r : Polled Nat} {total : Nat}

/-- A poll counts the packets that it delivers. -/
theorem packets_of_poll {bytes : List UInt8} {packets : List Packet}
    (h : s.poller.Received bytes packets) {outcome : PollOutcome}
    (hok : s.poll.result = .ok outcome) : outcome.packets = s.poll.delivered.length := by
  have hp := s.polls_poll
  generalize s.poll = polled at hp hok ⊢
  cases hp with
  | closed | idle | pinged | ended =>
    cases hok
    rfl
  | pingFailed | readFailed => cases hok
  | @data line chunk =>
    obtain ⟨framer, later, hdata, -⟩ := h.onData line chunk
    rw [hdata] at hok ⊢
    cases hok
    rfl

/-- Only a closed poller tells that the stream has ended. -/
theorem closed_of_poll (hok : s.poll.result = .ok .closed) :
    s.poll.state.poller.closed = true := by
  have hp := s.polls_poll
  generalize s.poll = polled at hp hok ⊢
  cases hp with
  | closed isClosed => exact isClosed
  | ended => rfl
  | idle | pinged | pingFailed | readFailed => cases hok
  | data =>
    unfold Poller.onData at hok
    dsimp only at hok
    split at hok <;> cases hok

/-- A run counts the packets that it delivers. -/
theorem Ends.total_eq (h : s.Ends a r) {bytes : List UInt8} {packets : List Packet}
    (hs : s.poller.Received bytes packets) (hok : r.result = .ok total) :
    total = r.delivered.length := by
  induction h generalizing bytes packets total with
  | stopped =>
    cases hok
    rfl
  | ended result =>
    cases hok
    exact packets_of_poll hs result
  | failed => cases hok
  | @turn s a r outcome result _ _ ih =>
    obtain ⟨count, hrest, hsum⟩ := map_eq_ok_iff.1 hok
    rw [← hsum, packets_of_poll hs result, ih ((advances_poll s).received hs) hrest,
      List.length_append]
  | pause time writing _ ih => exact ih ((advances_later _ time writing).received hs) hok

/-- A run that does not fail leaves its poller closed. -/
theorem Ends.closed (h : s.Ends a r) (hok : r.result = .ok total) :
    r.state.poller.closed = true := by
  induction h generalizing total with
  | stopped _ time => exact closed_shutDown _ time
  | ended result => exact closed_of_poll result
  | failed => cases hok
  | turn _ _ _ ih =>
    obtain ⟨count, hrest, -⟩ := map_eq_ok_iff.1 hok
    exact ih hrest
  | pause _ _ _ ih => exact ih hok

/-- Polls of a closed poller do nothing. -/
theorem pollEach_of_closed (h : s.poller.closed = true) (n : Nat) :
    s.pollEach n = (List.replicate n { state := s, result := .ok .closed }, s) := by
  induction n with
  | zero => rfl
  | succ n ih => rw [pollEach_succ, poll_of_closed h, ih, List.replicate_succ]

/-- **Wherever a signal stops a run, nothing that was read is lost.** Whatever a poller has done
before (`before`), a run of it that does not fail, stopped by a signal or not,

* gives the number of packets that it delivered;
* has delivered those packets that the blocks of its reads (`a.reads`) complete, each of them
  framed to its last byte: what is not a packet yet is what the framer holds;
* leaves all other bytes of the line to be read;
* leaves the poller closed, so that later polls read nothing, write nothing and deliver nothing.

The first part says that the runs that a signal of the clock stops are among these. -/
theorem runUntil_delivers (config : StreamConfig) (line : Line) {before : Account} {s : Polling}
    (h : (start config line).Performs before s) :
    (∀ signal r, s.runUntil signal = some r → s.Ends (s.accountUntil signal) r) ∧
    ∀ a r total, s.Ends a r → r.result = .ok total →
      total = r.delivered.length ∧
      (∃ held tail, Framing before.content before.delivered held ∧
        Framing (before.content ++ a.content) (before.delivered ++ r.delivered) tail ∧
        r.state.poller.framer = { held := tail }) ∧
      before.content ++ a.content ++ r.state.line.pending = line.pending ∧
      r.state.poller.closed = true ∧
      ∀ n, r.state.pollEach n =
        (List.replicate n { state := r.state, result := .ok .closed }, r.state) := by
  refine ⟨fun signal r => ends_runUntil, fun a r total ha hok => ?_⟩
  have hs : s.poller.Received before.content before.delivered :=
    h.advances.received (Poller.received_start config line)
  have hr := ha.advances.received hs
  have hclosed := ha.closed hok
  refine ⟨ha.total_eq hs hok, ⟨_, _, hs.framing, ?_, hr.framer⟩, ?_, hclosed,
    pollEach_of_closed hclosed⟩
  · rw [ha.delivered]
    exact hr.framing
  · rw [List.append_assoc, ha.advances.pending, h.advances.pending]
    rfl

/-- An event, the first byte of another one, and the rest of that later. -/
def halvedLine : Line where
  arrivals := [(0, .bytes [0x20, 0x00, 0x20]), (150, .bytes [0x00]), (150, .endOfStream)]

/-- Settings with a keep-alive byte after every 40 milliseconds of silence. -/
def busyConfig : StreamConfig := { pollInterval := .ofMillis 40, idlePollsBeforePing := 0 }

/-- A signal that comes while a run waits for the rest of an event leaves the first byte in the
framer and the rest on the line; so does one that comes while a keep-alive byte is written. After
a keep-alive byte that failed, a run writes the next two and delivers the event. -/
theorem runUntil_delivers_halved :
    (∃ r tail, (start {} halvedLine).runUntil (.scheduled 120) = some r ∧
      r.delivered.length = 1 ∧ Framing [0x20, 0x00, 0x20] r.delivered tail ∧
      r.state.line.pending = [0x00] ∧ (r.state.pollEach 2).2 = r.state) ∧
    (∃ a r tail, (start { idlePollsBeforePing := 0 } halvedLine).Ends a r ∧
      r.delivered.length = 1 ∧ Framing [0x20, 0x00, 0x20] r.delivered tail ∧
      r.state.line.pending = [0x00] ∧ (r.state.pollEach 2).2 = r.state) ∧
    ∃ before s r tail,
      (start busyConfig { halvedLine with writing := .fails }).Performs before s ∧
      before.reads.length = 2 ∧ before.outcomes.length = 1 ∧
      s.runUntil .never = some r ∧ r.delivered.length = 1 ∧
      Framing [0x20, 0x00, 0x20, 0x00] (before.delivered ++ r.delivered) tail ∧
      r.state.line.pending = [] ∧ r.state.line.written = [0x10, 0x10] := by
  refine ⟨?_, ?_, ?_⟩
  · obtain ⟨r, hr, hone⟩ := Option.map_eq_some_iff.1 (show
      ((start {} halvedLine).runWithin (.scheduled 120) 16).map (·.result) = some (.ok 1) from rfl)
    obtain ⟨hends, hloss⟩ := runUntil_delivers {} halvedLine .none
    obtain ⟨hcount, ⟨-, tail, -, hframing, -⟩, hpending, -, hlater⟩ :=
      hloss _ r 1 (hends _ r hr) hone
    exact ⟨r, tail, hr, hcount.symm, hframing,
      (List.append_right_inj [0x20, 0x00, 0x20]).1 hpending, by rw [hlater]⟩
  · have hends : (start { idlePollsBeforePing := 0 } halvedLine).Ends _ _ :=
      .turn rfl nofun
        (.stopped (.writing rfl (Prod.ext rfl rfl) (Nat.le_refl _) (.inl rfl)) 110)
    obtain ⟨-, hloss⟩ := runUntil_delivers { idlePollsBeforePing := 0 } halvedLine .none
    obtain ⟨hcount, ⟨-, tail, -, hframing, -⟩, hpending, -, hlater⟩ := hloss _ _ 1 hends rfl
    exact ⟨_, _, tail, hends, hcount.symm, hframing,
      (List.append_right_inj [0x20, 0x00, 0x20]).1 hpending, by rw [hlater]⟩
  · have hread : (start busyConfig { halvedLine with writing := .fails }).Performs _ _ :=
      .act .none .poll
    have hfailed := hread.act .poll
    have hmended := hfailed.act (.pause 0 .accepted)
    obtain ⟨hends, hloss⟩ := runUntil_delivers busyConfig _ hmended
    have hrun := hends .never _ rfl
    obtain ⟨hcount, ⟨-, tail, -, hframing, -⟩, hpending, -⟩ := hloss _ _ 1 hrun rfl
    exact ⟨_, _, _, tail, hmended, rfl, rfl, rfl, hcount.symm, hframing,
      (List.append_right_inj [0x20, 0x00, 0x20, 0x00]).1 hpending, rfl⟩

end Polling

end TimingFeed
