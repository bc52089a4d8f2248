import TimingFeed.Proofs.Connection.Delivery

/-!
# What a poller is asked to do

A poller is polled, or it runs until the stream ends or a signal comes. A signal stops a run
wherever the run waits: between two polls, while a poll waits for data, and while a keep-alive
byte is written. From one poll to the next time may pass, and writing may begin to fail or work
again.

* `Account` is what some polls came to, and `Polling.account` what one poll comes to;
* `Polling.Waits` are the places where a run waits, and `Polling.Ends` is how it can end;
* `ends_runUntil`: a run until a signal of the clock ends in one of these ways;
* `Polling.Acts` is one operation, and `Polling.Performs` several of them;
* `Polling.Advances` says that the bytes of an account were taken from the line and framed. One
  poll does this (`advances_poll`), and so do runs and operations.
-/

namespace TimingFeed

/-- What some polls came to, in order. -/
@[ext]
structure Account where
  /-- What their reads gave. -/
  reads : List ReadOutcome := []
  /-- The packets that were delivered. -/
  delivered : List Packet := []
  /-- The outcomes of the polls that did not fail. -/
  outcomes : List PollOutcome := []

namespace Account

instance : Append Account where
  append a b :=
    { reads := a.reads ++ b.reads
      delivered := a.delivered ++ b.delivered
      outcomes := a.outcomes ++ b.outcomes }

variable (a b : Account)

@[simp] theorem reads_append : (a ++ b).reads = a.reads ++ b.reads := rfl

@[simp] theorem delivered_append : (a ++ b).delivered = a.delivered ++ b.delivered := rfl

@[simp] theorem outcomes_append : (a ++ b).outcomes = a.outcomes ++ b.outcomes := rfl

theorem append_empty : a ++ ({} : Account) = a :=
  Account.ext (List.append_nil _) (List.append_nil _) (List.append_nil _)

/-- The bytes that were read. -/
def content : List UInt8 := a.reads.flatMap (·.content)

@[simp] theorem content_append : (a ++ b).content = a.content ++ b.content :=
  List.flatMap_append

end Account

namespace Polling

/-- What a poll comes to. -/
def account (s : Polling) : Account where
  reads := s.reads
  delivered := s.poll.delivered
  outcomes := s.poll.result.toOption.toList

/-- Time has passed, and this is what becomes of written bytes from now on. -/
def later (s : Polling) (time : Nat) (writing : Writing) : Polling :=
  ⟨s.poller, { s.line with now := s.line.now + time, writing }⟩

/-! ### Runs -/

/-- Where a run waits, after what the poll under way has done already and counted. Nothing of
this is undone when the run stops there. -/
inductive Waits (s : Polling) : Polling → Account → List MetricEvent → Prop
  /-- Before a poll, or in its read: no byte was read. -/
  | reading : Waits s s {} []
  /-- In writing a keep-alive byte, which may or may not have been taken. -/
  | writing {line : Line} {taken : List UInt8} (isOpen : s.poller.closed = false)
      (silent : s.line.read s.poller.wait s.poller.bufferSize = (.timedOut, line))
      (many : s.poller.threshold ≤ s.poller.idlePolls)
      (byte : taken = [] ∨ taken = [s.poller.config.pingByte]) :
      Waits s ⟨s.poller, { line with written := line.written ++ taken }⟩
        { reads := [.timedOut] } [.idlePoll]

/-- How a run can end, with what its polls came to. -/
inductive Ends : Polling → Account → Polled Nat → Prop
  /-- A signal comes where the run waits: a message, or the end of the last sender. -/
  | stopped {s t : Polling} {a : Account} {counted : List MetricEvent} (waits : s.Waits t a counted)
      (time : Nat) :
      Ends s a { t.shutDown time with counted := counted ++ (t.shutDown time).counted }
  /-- The stream ends. -/
  | ended {s : Polling} (result : s.poll.result = .ok .closed) :
      Ends s s.account
        { state := s.poll.state, result := .ok 0
          delivered := s.poll.delivered, counted := s.poll.counted }
  | failed {s : Polling} {e : FeedError} (result : s.poll.result = .error e) :
      Ends s s.account
        { state := s.poll.state, result := .error e
          delivered := s.poll.delivered, counted := s.poll.counted }
  | turn {s : Polling} {a : Account} {r : Polled Nat} {outcome : PollOutcome}
      (result : s.poll.result = .ok outcome) (goesOn : outcome ≠ .closed)
      (rest : Ends s.poll.state a r) :
      Ends s (s.account ++ a)
        { state := r.state
          result := r.result.map (outcome.packets + ·)
          delivered := s.poll.delivered ++ r.delivered
          counted := s.poll.counted ++ r.counted }
  /-- Between two polls the clock moves on, as it does when writing takes time, and writing
  may begin to fail or work again. -/
  | pause {s : Polling} {a : Account} {r : Polled Nat} (time : Nat) (writing : Writing)
      (rest : Ends (s.later time writing) a r) : Ends s a r

/-- What the polls of a run come to, in at most so many turns. -/
def accountWithin (signal : Shutdown) : Nat → Polling → Account
  | 0, _ => {}
  | n + 1, s =>
    match signal.stops? s with
    | some _ => {}
    | none =>
      match s.poll.result with
      | .error _ | .ok .closed => s.account
      | .ok _ => s.account ++ accountWithin signal n s.poll.state

/-- What the polls of a run until a signal come to. -/
def accountUntil (signal : Shutdown) (s : Polling) : Account :=
  s.accountWithin signal (s.turnBound signal)

variable {s t u : Polling} {a b : Account} {r : Polled Nat} {counted : List MetricEvent}

theorem ends_runWithin {signal : Shutdown} {n : Nat} (h : s.runWithin signal n = some r) :
    s.Ends (s.accountWithin signal n) r := by
  induction n generalizing s r with
  | zero => cases h
  | succ n ih =>
    cases hgo : signal.stops? s with
    | some time =>
      rw [runWithin_of_stop hgo] at h
      cases h
      simp only [accountWithin, hgo]
      exact .stopped .reading time
    | none =>
      cases hresult : s.poll.result with
      | error e =>
        rw [runWithin_of_error hgo hresult] at h
        cases h
        simp only [accountWithin, hgo, hresult]
        exact .failed hresult
      | ok outcome =>
        by_cases hne : outcome = .closed
        · subst hne
          rw [runWithin_of_closed hgo hresult] at h
          cases h
          simp only [accountWithin, hgo, hresult]
          exact .ended hresult
        · rw [runWithin_of_ok hgo hresult hne, Option.map_eq_some_iff] at h
          obtain ⟨rest, hrest, rfl⟩ := h
          simp only [accountWithin, hgo, hresult]
          exact .turn hresult hne (ih hrest)

/-- **A run until a signal of the clock** ends in one of these ways. -/
theorem ends_runUntil {signal : Shutdown} (h : s.runUntil signal = some r) :
    s.Ends (s.accountUntil signal) r :=
  ends_runWithin h

/-- The packets of a run are those of its polls. -/
theorem Ends.delivered (h : s.Ends a r) : r.delivered = a.delivered := by
  induction h with
  | stopped waits => cases waits <;> rfl
  | ended | failed => rfl
  | turn _ _ _ ih => rw [ih, Account.delivered_append, account]
  | pause _ _ _ ih => exact ih

/-! ### Operations -/

/-- One operation of a poller, with what it comes to and what is counted. -/
inductive Acts (s : Polling) : Account → Polling → List MetricEvent → Prop
  /-- A poll, by itself or as a turn of a run. -/
  | poll : Acts s s.account s.poll.state s.poll.counted
  /-- A whole run, until a signal or without one. -/
  | runUntil {signal : Shutdown} {r : Polled Nat} (run : s.runUntil signal = some r) :
      Acts s (s.accountUntil signal) r.state r.counted
  /-- The end of a run under way, at a signal. -/
  | stop {t : Polling} {a : Account} {counted : List MetricEvent} (waits : s.Waits t a counted)
      (time : Nat) :
      Acts s a (t.shutDown time).state (counted ++ (t.shutDown time).counted)
  /-- Between two operations the clock moves on, and writing may begin to fail or work again. -/
  | pause (time : Nat) (writing : Writing) : Acts s {} (s.later time writing) []

/-- Several operations in a row. -/
inductive Performs (s : Polling) : Account → Polling → Prop
  | none : Performs s {} s
  | act {a b : Account} {t u : Polling} {counted : List MetricEvent} (before : Performs s a t)
      (acts : t.Acts b u counted) : Performs s (a ++ b) u

/-! ### Nothing is lost -/

/-- The bytes of an account were taken from the front of the line, and its packets are those
that they completed. -/
structure Advances (s : Polling) (a : Account) (t : Polling) : Prop where
  pending : a.content ++ t.line.pending = s.line.pending
  received : ∀ {bytes packets}, s.poller.Received bytes packets →
    t.poller.Received (bytes ++ a.content) (packets ++ a.delivered)

/-- So it is where nothing is read and the framer stays. -/
theorem Advances.of_quiet (hcontent : a.content = []) (hdelivered : a.delivered = [])
    (hframer : t.poller.framer = s.poller.framer) (harrivals : t.line.arrivals = s.line.arrivals) :
    s.Advances a t where
  pending := by rw [hcontent, Line.pending_congr harrivals, List.nil_append]
  received h := by
    rw [hcontent, hdelivered, List.append_nil, List.append_nil]
    exact h.of_framer hframer

theorem Advances.trans (h : s.Advances a t) (hu : t.Advances b u) : s.Advances (a ++ b) u where
  pending := by rw [Account.content_append, List.append_assoc, hu.pending, h.pending]
  received hs := by
    rw [Account.content_append, Account.delivered_append, ← List.append_assoc,
      ← List.append_assoc]
    exact hu.received (h.received hs)

/-- What a poller makes of a read changes nothing about what arrives. -/
theorem arrivals_of_meets {p : Poller} {line : Line} {outcome : ReadOutcome}
    {polled : Polled PollOutcome} (h : p.Meets line outcome polled) :
    polled.state.line.arrivals = line.arrivals := by
  cases h with
  | timedOut =>
    unfold Poller.onIdle
    split
    · rfl
    · split <;> next hping => exact (Line.frame_of_ping hping).1
  | failed | ended => rfl
  | @data chunk =>
    obtain ⟨framer, hstate⟩ := p.state_onData line chunk
    rw [hstate]

/-- **One poll advances.** -/
theorem advances_poll (s : Polling) : s.Advances s.account s.poll.state := by
  have hpending : s.account.content ++ s.poll.state.line.pending = s.line.pending := by
    cases hclosed : s.poller.closed with
    | true => rw [poll_of_closed hclosed, Account.content, account, reads_of_closed hclosed]; rfl
    | false =>
      obtain ⟨outcome, line, hread, hreads, hmeets⟩ := poll_meets hclosed
      rw [Line.pending_congr (arrivals_of_meets hmeets), hreads.pending, Account.content, account,
        hread, List.flatMap_singleton]
  refine ⟨hpending, fun h => ?_⟩
  obtain ⟨⟨read, hread, hreceived⟩, -⟩ := received_poll h s.polls_poll
  rwa [List.append_cancel_right (hread.trans hpending.symm)] at hreceived

theorem advances_later (s : Polling) (time : Nat) (writing : Writing) :
    s.Advances {} (s.later time writing) :=
  .of_quiet rfl rfl rfl rfl

/-- A run that waits has read nothing more. -/
theorem Waits.advances (h : s.Waits t a counted) : s.Advances a t := by
  cases h with
  | reading => exact .of_quiet rfl rfl rfl rfl
  | @writing line taken _ silent =>
    have hreads := s.line.reads_read s.poller.wait s.poller.bufferSize_pos
    rw [silent] at hreads
    exact .of_quiet rfl rfl rfl hreads.arrivals_timedOut

@[simp] theorem closed_shutDown (s : Polling) (time : Nat) :
    (s.shutDown time).state.poller.closed = true := by
  cases hclosed : s.poller.closed <;> simp [shutDown, Poller.close, hclosed]

/-- A signal loses nothing of what was read before it. -/
theorem Waits.advances_shutDown (h : s.Waits t a counted) (time : Nat) :
    s.Advances a (t.shutDown time).state := by
  have hstop : t.Advances {} (t.shutDown time).state := by
    refine .of_quiet rfl rfl ?_ rfl
    cases hclosed : t.poller.closed <;> simp [shutDown, Poller.close, hclosed]
  rw [← a.append_empty]
  exact h.advances.trans hstop

/-- **A run advances**, wherever a signal stops it. -/
theorem Ends.advances (h : s.Ends a r) : s.Advances a r.state := by
  induction h with
  | stopped waits time => exact waits.advances_shutDown time
  | ended | failed => exact advances_poll _
  | turn _ _ _ ih => exact (advances_poll _).trans ih
  | pause time writing _ ih => exact (advances_later _ time writing).trans ih

theorem Acts.advances (h : s.Acts a t counted) : s.Advances a t := by
  cases h with
  | poll => exact advances_poll s
  | runUntil run => exact (ends_runUntil run).advances
  | stop waits time => exact waits.advances_shutDown time
  | pause time writing => exact advances_later s time writing

theorem Performs.advances (h : s.Performs a t) : s.Advances a t := by
  induction h with
  | none => exact .of_quiet rfl rfl rfl rfl
  | act _ acts ih => exact ih.trans acts.advances

end Polling

end TimingFeed
