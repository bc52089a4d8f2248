import TimingFeed.Proofs.Connection.Polls

/-!
# A run that ends is short

`Polling.runUntil` gives up after `turnBound` turns. Main statement: `runUntil_of_runWithin`.
Nothing is lost by that: a run that ends after any number of turns ends before the bound.
`exists_runUntil` says when a run ends.

Every turn that does not end a run either brings the next arrival closer, and there is only so
much to come (`Line.work`), or it waits in vain (`WaitsInVain`): nothing more arrives, or the
polls have no length. From then on only a signal or a failing keep-alive byte ends the run, and
`patience` counts the turns until then; if neither comes, it never ends (`Stuck`).
-/

namespace TimingFeed

/-- One more wait brings a time that is not reached by it closer. -/
theorem sub_div_lt {now wait time : Nat} (hwait : 0 < wait) (h : now + wait ≤ time) :
    (time - (now + wait)) / wait < (time - now) / wait := by
  rw [Nat.lt_iff_add_one_le, ← Nat.add_div_right _ hwait]
  exact Nat.div_le_div_right (by omega)

namespace Line

/-- More polls than one arrival can take: one for each byte, one for what is not data, and
those that wait for it. -/
def effort (wait now : Nat) (first : Nat × Arrival) : Nat :=
  first.2.content.length + 1 + ((first.1 - now) / max wait 1 + 1)

/-- More polls than some arrivals can take. -/
def efforts (wait now : Nat) : List (Nat × Arrival) → Nat
  | [] => 0
  | first :: later => effort wait now first + efforts wait now later

/-- More polls than all that is still to arrive can take. -/
def work (l : Line) (wait : Nat) : Nat := efforts wait l.now l.arrivals

/-- Later, an arrival takes no more polls. -/
theorem efforts_le (wait : Nat) {now later : Nat} (h : now ≤ later)
    (arrivals : List (Nat × Arrival)) :
    efforts wait later arrivals ≤ efforts wait now arrivals := by
  induction arrivals with
  | nil => exact Nat.le_refl _
  | cons first rest ih =>
    have hfirst : (first.1 - later) / max wait 1 ≤ (first.1 - now) / max wait 1 :=
      Nat.div_le_div_right (Nat.sub_le_sub_left h _)
    simp only [efforts, effort]
    omega

/-- What counts every arrival with its effort at least, counts them all so. -/
theorem efforts_le_foldl {wait now : Nat} {count : Nat → Nat × Arrival → Nat}
    (h : ∀ n first, n + effort wait now first ≤ count n first) (n : Nat)
    (arrivals : List (Nat × Arrival)) :
    n + efforts wait now arrivals ≤ arrivals.foldl count n := by
  induction arrivals generalizing n with
  | nil => exact Nat.le_refl _
  | cons first rest ih =>
    have hfirst := h n first
    have hrest := ih (count n first)
    rw [efforts, List.foldl_cons]
    omega

theorem work_lt_pollBound (l : Line) (wait : Nat) : l.work wait < l.pollBound wait := by
  have hcount : 1 + l.work wait ≤ l.pollBound wait := by
    refine efforts_le_foldl (fun n ⟨since, a⟩ => ?_) 1 l.arrivals
    have hsince : (since - l.now) / max wait 1 ≤ since / max wait 1 :=
      Nat.div_le_div_right (Nat.sub_le _ _)
    cases a <;> simp only [effort, Arrival.content, List.length_nil] <;> omega
  omega

variable {l m : Line} {wait : Nat}

/-- Bytes that were read are done with. -/
theorem Reads.work_data {chunk : List UInt8} (h : l.Reads wait (.bytes chunk) m)
    (hne : chunk ≠ []) : m.work wait < l.work wait := by
  have hlength : 0 < chunk.length := List.length_pos_iff.2 hne
  cases h with
  | ended => exact absurd rfl hne
  | @whole since _ later harrivals =>
    have hrest := efforts_le wait (Nat.le_max_left l.now since) later
    simp only [work, harrivals, efforts, effort, Arrival.content]
    generalize (since - l.now) / max wait 1 = waits
    omega
  | @part since _ rest later harrivals =>
    have hrest := efforts_le wait (Nat.le_max_left l.now since) later
    have hfirst : (since - max l.now since) / max wait 1 ≤ (since - l.now) / max wait 1 :=
      Nat.div_le_div_right (Nat.sub_le_sub_left (Nat.le_max_left _ _) _)
    simp only [work, harrivals, efforts, effort, Arrival.content,
      List.length_append]
    omega

/-- A wait brings what is late closer. -/
theorem Reads.work_timedOut (h : l.Reads wait .timedOut m) (hwait : wait ≠ 0)
    (hsome : l.arrivals ≠ []) : m.work wait < l.work wait := by
  cases h with
  | timedOut hlate =>
    obtain ⟨first, later, harrivals⟩ := List.exists_cons_of_ne_nil hsome
    have hrest := efforts_le wait (Nat.le_add_right l.now wait) later
    have hcloser := sub_div_lt (Nat.pos_of_ne_zero hwait)
      (Nat.le_of_lt (hlate first (by simp [harrivals])))
    have hmax : max wait 1 = wait := Nat.max_eq_left (Nat.pos_of_ne_zero hwait)
    simp only [work, harrivals, efforts, effort, hmax]
    omega

end Line

/-- The polls until a signal, if nothing arrives. -/
def Shutdown.turns (signal : Shutdown) (now wait : Nat) : Nat :=
  match signal with
  | scheduled time => (time - now) / max wait 1
  | queued | never => 0

theorem Shutdown.turns_le (signal : Shutdown) (wait : Nat) {now later : Nat} (h : now ≤ later) :
    signal.turns later wait ≤ signal.turns now wait := by
  cases signal with
  | scheduled time => exact Nat.div_le_div_right (Nat.sub_le_sub_left h time)
  | queued | never => exact Nat.le_refl 0

namespace Polling

/-- Whether nothing that a poll waits for comes: there is nothing, or a poll has no length and
what comes next is late. -/
structure WaitsInVain (s : Polling) : Prop where
  late : ∀ first ∈ s.line.arrivals.head?, s.line.now + s.poller.wait < first.1
  never : s.line.arrivals = [] ∨ s.poller.wait = 0

/-- The turns until a signal or a failing keep-alive byte, if nothing arrives. -/
def patience (signal : Shutdown) (s : Polling) : Nat :=
  signal.turns s.line.now s.poller.wait +
    if s.line.writing = .accepted then 0 else s.poller.threshold - s.poller.idlePolls

/-- Whether a run goes on for ever. -/
structure Stuck (signal : Shutdown) (s : Polling) : Prop where
  vain : s.WaitsInVain
  isOpen : s.poller.closed = false
  pings : s.line.writing = .accepted
  goesOn : signal.stops? s = none
  unmoved : signal = .never ∨ s.poller.wait = 0

variable {signal : Shutdown} {s : Polling} {polled : Polled PollOutcome}

/-- If nothing comes, every read times out. -/
theorem WaitsInVain.eq_of_reads (h : s.WaitsInVain) {outcome : ReadOutcome} {line : Line}
    (hr : s.line.Reads s.poller.wait outcome line) :
    outcome = .timedOut ∧ line = { s.line with now := s.line.now + s.poller.wait } := by
  cases hr with
  | timedOut => exact ⟨rfl, rfl⟩
  | failed harrivals hin | ended harrivals hin | whole harrivals hin | part harrivals hin =>
    have hlate := h.late _ (by rw [harrivals]; rfl)
    exact absurd hin (Nat.not_le.2 hlate)

/-- Who waits in vain goes on doing so. -/
theorem WaitsInVain.later (h : s.WaitsInVain) {t : Polling}
    (harrivals : t.line.arrivals = s.line.arrivals) (hwait : t.poller.wait = s.poller.wait)
    (hnow : t.line.now = s.line.now + s.poller.wait) : t.WaitsInVain where
  late := by
    rw [harrivals, hnow, hwait]
    rcases h.never with hnone | hzero
    · simp [hnone]
    · have hlate := h.late
      rwa [hzero, Nat.add_zero] at hlate ⊢
  never := by
    rw [harrivals, hwait]
    exact h.never

/-- A poll that waits in vain does nothing but wait, and so does the next one. -/
theorem WaitsInVain.poll (h : s.WaitsInVain) (hp : s.Polls polled) {outcome : PollOutcome}
    (hok : polled.result = .ok outcome) (hne : outcome ≠ .closed) :
    polled.state.WaitsInVain ∧ polled.state.line.now = s.line.now + s.poller.wait ∧
      (s.line.writing = .accepted ∨ s.poller.idlePolls < s.poller.threshold ∧
        polled.state.poller.idlePolls = s.poller.idlePolls + 1) := by
  cases hp with
  | closed | ended =>
    cases hok
    exact absurd rfl hne
  | pingFailed | readFailed => cases hok
  | idle _ reads hfew =>
    obtain ⟨-, rfl⟩ := h.eq_of_reads reads
    exact ⟨h.later rfl rfl rfl, rfl, .inr ⟨hfew, rfl⟩⟩
  | pinged _ reads _ ping =>
    obtain ⟨-, rfl⟩ := h.eq_of_reads reads
    obtain ⟨harrivals, -, hnow⟩ := Line.frame_of_ping ping
    refine ⟨h.later harrivals rfl hnow, hnow, .inl ?_⟩
    cases hwriting : s.line.writing with
    | accepted => rfl
    | fails | takesNothing | flushFails => simp [Line.ping, hwriting] at ping
  | data _ reads => exact absurd (h.eq_of_reads reads).1 nofun

/-- In vain, a poll is over at its deadline. -/
theorem WaitsInVain.pollEnd_eq (h : s.WaitsInVain) :
    s.pollEnd = s.line.now + s.poller.wait := by
  have hlate := h.late
  unfold pollEnd Line.wakeTime
  split
  · next since a later harrivals =>
    rw [if_neg (Nat.not_le.2 (hlate (since, a) (by rw [harrivals]; rfl)))]
  · rfl

/-- A signal that lets a poll take place leaves a run stuck, or the poll brings its end closer. -/
theorem WaitsInVain.patience_lt (h : s.WaitsInVain) (hopen : s.poller.closed = false)
    (hgo : signal.stops? s = none) (hp : s.Polls polled) {outcome : PollOutcome}
    (hok : polled.result = .ok outcome) (hne : outcome ≠ .closed) :
    polled.state.patience signal < s.patience signal ∨ s.Stuck signal := by
  obtain ⟨-, hwriting, hle⟩ := hp.frame
  obtain ⟨-, hnow, hidle⟩ := h.poll hp hok hne
  have hturns := signal.turns_le s.poller.wait hle
  rw [patience, patience, hwriting, hp.wait, hp.threshold]
  by_cases hpings : s.line.writing = .accepted
  · rw [if_pos hpings, if_pos hpings]
    by_cases hunmoved : signal = .never ∨ s.poller.wait = 0
    · exact .inr ⟨h, hopen, hpings, hgo, hunmoved⟩
    · left
      rw [not_or] at hunmoved
      cases signal with
      | never => exact absurd rfl hunmoved.1
      | queued => cases hgo
      | scheduled time =>
        have hend : s.line.now + s.poller.wait ≤ time := by
          simpa [Shutdown.stops?, hopen, h.pollEnd_eq] using hgo
        have hpos : 0 < s.poller.wait := Nat.pos_of_ne_zero hunmoved.2
        rw [hnow, Shutdown.turns, Shutdown.turns, Nat.max_eq_left hpos]
        exact sub_div_lt hpos hend
  · obtain ⟨hfew, hidle⟩ := hidle.resolve_left hpings
    rw [if_neg hpings, if_neg hpings, hidle]
    left
    omega

/-- A poll of a stuck run leaves it stuck. -/
theorem Stuck.poll (h : s.Stuck signal) (hp : s.Polls polled) :
    (∃ outcome, polled.result = .ok outcome ∧ outcome ≠ .closed) ∧
      polled.state.Stuck signal := by
  have hopen : (∃ outcome, polled.result = .ok outcome ∧ outcome ≠ .closed) ∧
      polled.state.poller.closed = false := by
    cases hp with
    | closed hclosed => simp [h.isOpen] at hclosed
    | idle => exact ⟨⟨.idle, rfl, nofun⟩, h.isOpen⟩
    | pinged => exact ⟨⟨.pingSent, rfl, nofun⟩, h.isOpen⟩
    | pingFailed _ reads _ ping =>
      simp [Line.ping, reads.writing.1.trans h.pings] at ping
    | readFailed _ reads | ended _ reads | data _ reads =>
      exact absurd (h.vain.eq_of_reads reads).1 nofun
  obtain ⟨⟨outcome, hok, hne⟩, hopen⟩ := hopen
  obtain ⟨-, hwriting, -⟩ := hp.frame
  obtain ⟨hvain, hnow, -⟩ := h.vain.poll hp hok hne
  refine ⟨⟨outcome, hok, hne⟩, hvain, hopen, hwriting.trans h.pings, ?_, by
    rw [hp.wait]
    exact h.unmoved⟩
  rcases h.unmoved with rfl | hzero
  · rfl
  · -- The clock stands still, so what the signal did not stop it will never stop.
    have hend : polled.state.pollEnd = s.pollEnd := by
      rw [hvain.pollEnd_eq, h.vain.pollEnd_eq, hnow, hp.wait, hzero]
    have hgo := h.goesOn
    cases signal with
    | queued => cases hgo
    | scheduled time => simpa [Shutdown.stops?, hopen, h.isOpen, hend] using hgo
    | never => rfl

/-- **A stuck run never ends.** -/
theorem Stuck.runWithin (h : s.Stuck signal) (n : Nat) : s.runWithin signal n = none := by
  induction n generalizing s with
  | zero => rfl
  | succ n ih =>
    obtain ⟨⟨outcome, hok, hne⟩, hlater⟩ := h.poll s.polls_poll
    rw [runWithin_of_ok h.goesOn hok hne, ih hlater, Option.map_none]

/-- A run that ends does so in its first turn, or that turn goes on with one that ends. -/
theorem runWithin_cases {n : Nat} {r : Polled Nat} (h : s.runWithin signal (n + 1) = some r) :
    (∀ m, s.runWithin signal (m + 1) = some r) ∨
    signal.stops? s = none ∧ s.poller.closed = false ∧
      (∃ outcome, s.poll.result = .ok outcome ∧ outcome ≠ .closed) ∧
      ∃ later, s.poll.state.runWithin signal n = some later ∧
        ∀ m, s.poll.state.runWithin signal m = some later →
          s.runWithin signal (m + 1) = some r := by
  cases hgo : signal.stops? s with
  | some time => exact .inl fun m => by rw [← h, runWithin_of_stop hgo, runWithin_of_stop hgo]
  | none =>
    cases hresult : s.poll.result with
    | error e =>
      exact .inl fun m => by
        rw [← h, runWithin_of_error hgo hresult, runWithin_of_error hgo hresult]
    | ok outcome =>
      by_cases hne : outcome = .closed
      · subst hne
        exact .inl fun m => by
          rw [← h, runWithin_of_closed hgo hresult, runWithin_of_closed hgo hresult]
      · rw [runWithin_of_ok hgo hresult hne, Option.map_eq_some_iff] at h
        obtain ⟨later, hlater, rfl⟩ := h
        have hopen : s.poller.closed = false := by
          cases hclosed : s.poller.closed with
          | false => rfl
          | true =>
            rw [poll_of_closed hclosed] at hresult
            cases hresult
            exact absurd rfl hne
        refine .inr ⟨rfl, hopen, ⟨outcome, rfl, hne⟩, later, hlater, fun m hm => ?_⟩
        rw [runWithin_of_ok hgo hresult hne, hm, Option.map_some]

/-- A run that waits in vain and ends does so when its patience is over. -/
theorem WaitsInVain.runWithin (h : s.WaitsInVain) {n : Nat} {r : Polled Nat}
    (hr : s.runWithin signal n = some r) {m : Nat} (hm : s.patience signal < m) :
    s.runWithin signal m = some r := by
  induction n generalizing s r m with
  | zero => cases hr
  | succ n ih =>
    obtain ⟨m, rfl⟩ := Nat.exists_eq_add_one.2 (Nat.zero_lt_of_lt hm)
    obtain hfirst | ⟨hgo, hopen, ⟨outcome, hok, hne⟩, later, hlater, hback⟩ := runWithin_cases hr
    · exact hfirst m
    · rcases h.patience_lt hopen hgo s.polls_poll hok hne with hless | hstuck
      · exact hback m (ih (h.poll s.polls_poll hok hne).1 hlater (by omega))
      · rw [hstuck.runWithin] at hr
        cases hr

/-- The turns that a run can take before only a signal or a failing keep-alive byte ends it, and
the turns until then. -/
def turnsLeft (signal : Shutdown) (s : Polling) : Nat :=
  s.line.work s.poller.wait + signal.turns s.line.now s.poller.wait +
    if s.line.writing = .accepted then 0 else s.poller.threshold

theorem patience_le (signal : Shutdown) (s : Polling) :
    s.patience signal ≤ s.turnsLeft signal := by
  unfold patience turnsLeft
  split <;> omega

theorem turnsLeft_lt_turnBound (signal : Shutdown) (s : Polling) :
    s.turnsLeft signal < s.turnBound signal := by
  have hwork := s.line.work_lt_pollBound s.poller.wait
  unfold turnsLeft turnBound
  cases signal with
  | scheduled time =>
    have htime : (time - s.line.now) / max s.poller.wait 1 ≤ time / max s.poller.wait 1 :=
      Nat.div_le_div_right (Nat.sub_le _ _)
    cases s.line.writing <;> simp [Shutdown.turns] <;> omega
  | queued | never => cases s.line.writing <;> simp [Shutdown.turns] <;> omega

/-- A wait that is not in vain brings an arrival closer. -/
theorem work_of_reads (h : ¬ s.WaitsInVain) {line : Line}
    (hr : s.line.Reads s.poller.wait .timedOut line) :
    line.work s.poller.wait < s.line.work s.poller.wait := by
  have hlate : ∀ first ∈ s.line.arrivals.head?, s.line.now + s.poller.wait < first.1 := by
    cases hr with
    | timedOut hlate => exact hlate
  exact hr.work_timedOut (fun hzero => h ⟨hlate, .inr hzero⟩) (fun hnone => h ⟨hlate, .inl hnone⟩)

/-- A poll that does not wait in vain brings the end of a run closer. -/
theorem turnsLeft_poll (signal : Shutdown) (h : ¬ s.WaitsInVain) (hp : s.Polls polled)
    {outcome : PollOutcome} (hok : polled.result = .ok outcome) (hne : outcome ≠ .closed) :
    polled.state.turnsLeft signal < s.turnsLeft signal := by
  have hwork : polled.state.line.work s.poller.wait < s.line.work s.poller.wait := by
    obtain ⟨line, reads, harrivals, hnow⟩ | ⟨chunk, hchunk, reads⟩ := hp.line_of_ok hok hne
    · have hless := work_of_reads h reads
      rw [Line.work] at hless
      rwa [Line.work, harrivals, hnow]
    · exact reads.work_data hchunk
  obtain ⟨-, hwriting, hle⟩ := hp.frame
  have hturns := signal.turns_le s.poller.wait hle
  rw [turnsLeft, turnsLeft, hwriting, hp.wait, hp.threshold]
  omega

/-- **A run that ends at all ends within the bound.** -/
theorem runUntil_of_runWithin {n : Nat} {r : Polled Nat}
    (hr : s.runWithin signal n = some r) : s.runUntil signal = some r := by
  suffices h : ∀ m, s.turnsLeft signal < m → s.runWithin signal m = some r from
    h _ (turnsLeft_lt_turnBound signal s)
  induction n generalizing s r with
  | zero => cases hr
  | succ n ih =>
    intro m hm
    by_cases hvain : s.WaitsInVain
    · exact hvain.runWithin hr (Nat.lt_of_le_of_lt (patience_le signal s) hm)
    · obtain ⟨m, rfl⟩ := Nat.exists_eq_add_one.2 (Nat.zero_lt_of_lt hm)
      obtain hfirst | ⟨-, -, ⟨outcome, hok, hne⟩, later, hlater, hback⟩ := runWithin_cases hr
      · exact hfirst m
      · have hless := turnsLeft_poll signal hvain s.polls_poll hok hne
        exact hback m (ih hlater m (by omega))

/-- **A run over a stream that ends or fails comes to an end**, if its polls have a length. -/
theorem exists_runUntil (signal : Shutdown) (hwait : s.poller.wait ≠ 0)
    (hending : s.line.ending ≠ []) : ∃ r, s.runUntil signal = some r := by
  suffices h : ∃ n r, s.runWithin signal n = some r by
    obtain ⟨n, r, hr⟩ := h
    exact ⟨r, runUntil_of_runWithin hr⟩
  -- Each turn before the last one leaves fewer turns.
  induction hleft : s.turnsLeft signal using Nat.strongRecOn generalizing s with
  | ind left ih =>
    subst hleft
    have hvain : ¬ s.WaitsInVain := by
      rintro ⟨-, hnone | hzero⟩
      · exact hending (by rw [Line.ending, hnone, List.dropWhile_nil])
      · exact hwait hzero
    cases hgo : signal.stops? s with
    | some time => exact ⟨1, _, runWithin_of_stop hgo⟩
    | none =>
      cases hresult : s.poll.result with
      | error e => exact ⟨1, _, runWithin_of_error hgo hresult⟩
      | ok outcome =>
        by_cases hne : outcome = .closed
        · subst hne
          exact ⟨1, _, runWithin_of_closed hgo hresult⟩
        · have hp := s.polls_poll
          have hless := turnsLeft_poll signal hvain hp hresult hne
          rw [← hp.wait] at hwait
          rw [← hp.ending hresult hne] at hending
          obtain ⟨n, later, hlater⟩ := ih _ hless hwait hending rfl
          refine ⟨n + 1, ?_⟩
          rw [runWithin_of_ok hgo hresult hne, hlater, Option.map_some]
          exact ⟨_, rfl⟩

end Polling

end TimingFeed
