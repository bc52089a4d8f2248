import Mathlib.Data.List.DropRight
import TimingFeed.Proofs.Connection.Polls

/-!
# When keep-alive bytes are sent

A poller counts its empty polls and sends a keep-alive byte when the count is at the threshold.
Main statement: `keepAlive_polls`. As long as every byte could be written, each byte comes after
as many idle polls as the threshold says; a byte that could not be written is tried again with the
next empty poll.

* `Poller.visits` and `Poller.afterPolls` are polls in a row, where before each of them anything may
  have happened to the line: bytes may arrive or not, and writing may fail at one poll and not at
  another;
* `Polling.StaysIdle` and `Polling.TriesPing` are the two things that an empty poll can do;
* `sinceData` are the polls since the last data, and `Poller.Paces` is the invariant: what they say
  of the count of empty polls. `Paces.poll` keeps it over one poll, `paces_afterPolls` over a run.
-/

namespace TimingFeed

namespace Poller

variable (p : Poller)

/-- What several polls find, each on the line as it is then. -/
def visits : Poller → List Line → List Polling
  | _, [] => []
  | p, line :: lines => ⟨p, line⟩ :: visits (Polling.poll ⟨p, line⟩).state.poller lines

/-- The poller after these polls. -/
def afterPolls (lines : List Line) : Poller :=
  lines.foldl (fun p line => (Polling.poll ⟨p, line⟩).state.poller) p

@[simp] theorem afterPolls_nil : p.afterPolls [] = p := rfl

theorem afterPolls_concat (lines : List Line) (line : Line) :
    p.afterPolls (lines ++ [line]) = (Polling.poll ⟨p.afterPolls lines, line⟩).state.poller := by
  simp [afterPolls]

@[simp] theorem visits_nil : p.visits [] = [] := rfl

theorem visits_concat (lines : List Line) (line : Line) :
    p.visits (lines ++ [line]) = p.visits lines ++ [⟨p.afterPolls lines, line⟩] := by
  induction lines generalizing p with
  | nil => rfl
  | cons first lines ih => simp [visits, ih, afterPolls]

end Poller

namespace Polling

variable (s : Polling)

/-- Whether the next poll is empty: nothing arrives in time. -/
def timesOut : Bool := s.reads = [.timedOut]

/-- Whether the next poll reads data. -/
def readsData : Bool := s.reads.any (·.content ≠ [])

/-- Whether the next poll fails to write a keep-alive byte. -/
def pingFails : Bool := s.timesOut && !s.poll.result.isOk

/-- An empty poll that writes nothing. -/
structure StaysIdle : Prop where
  result : s.poll.result = .ok .idle
  written : s.poll.state.line.written = s.line.written
  idlePolls : s.poll.state.poller.idlePolls = s.poller.idlePolls + 1

/-- An empty poll that writes a keep-alive byte, if the line takes it. -/
structure TriesPing : Prop where
  sent : s.line.writing = .accepted →
    s.poll.result = .ok .pingSent ∧
      s.poll.state.line.written = s.line.written ++ [s.poller.config.pingByte] ∧
      s.poll.state.poller.idlePolls = 0
  failed : s.line.writing ≠ .accepted →
    (∃ cause, s.poll.result = .error (.io cause)) ∧
      s.poll.state.poller.idlePolls = s.poller.idlePolls

/-- What the next poll does to the count of empty polls. -/
inductive Tallies : Prop
  /-- It is not empty and reads no data: a failure or the end of the stream, or no read at all. -/
  | keeps (notEmpty : s.timesOut = false) (noData : s.readsData = false)
      (idlePolls : s.poll.state.poller.idlePolls = s.poller.idlePolls)
      (written : s.poll.state.line.written = s.line.written)
  | restarts (notEmpty : s.timesOut = false) (data : s.readsData = true)
      (idlePolls : s.poll.state.poller.idlePolls = 0)
      (written : s.poll.state.line.written = s.line.written)
  | idle (empty : s.timesOut = true) (few : s.poller.idlePolls < s.poller.threshold)
      (stays : s.StaysIdle)
  | ping (empty : s.timesOut = true) (many : s.poller.threshold ≤ s.poller.idlePolls)
      (tries : s.TriesPing)

/-- **An empty poll stays idle below the threshold and tries to write at it**; data begins the
count anew, and nothing else changes it. -/
theorem tallies_poll : s.Tallies := by
  cases hclosed : s.poller.closed with
  | true =>
    have hreads := reads_of_closed hclosed
    have hpoll := poll_of_closed hclosed
    exact .keeps (by simp [timesOut, hreads]) (by simp [readsData, hreads]) (by rw [hpoll])
      (by rw [hpoll])
  | false =>
    obtain ⟨outcome, line, hreads, hline, hmeets⟩ := poll_meets hclosed
    obtain ⟨hwriting, hwritten⟩ := hline.writing
    generalize hpolled : s.poll = polled at hmeets
    cases hmeets with
    | failed | ended =>
      exact .keeps (by simp [timesOut, hreads]) (by simp [readsData, hreads, ReadOutcome.content])
        (by rw [hpolled]) (by rw [hpolled, hwritten])
    | @data chunk nonempty =>
      obtain ⟨framer, hstate⟩ := s.poller.state_onData line chunk
      exact .restarts (by simp [timesOut, hreads])
        (by simp [readsData, hreads, ReadOutcome.content, nonempty]) (by rw [hpolled, hstate])
        (by rw [hpolled, hstate, hwritten])
    | timedOut =>
      have hempty : s.timesOut = true := by simp [timesOut, hreads]
      by_cases hfew : s.poller.idlePolls < s.poller.threshold
      · rw [Poller.onIdle, if_pos hfew] at hpolled
        exact .idle hempty hfew ⟨by rw [hpolled], by rw [hpolled, hwritten], by rw [hpolled]⟩
      · rw [Poller.onIdle, if_neg hfew] at hpolled
        refine .ping hempty (Nat.not_lt.1 hfew) ⟨fun haccepted => ?_, fun hrefused => ?_⟩
        · simp only [Line.ping, hwriting, haccepted] at hpolled
          exact ⟨by rw [hpolled], by rw [hpolled, hwritten], by rw [hpolled]⟩
        · cases hw : s.line.writing with
          | accepted => exact absurd hw hrefused
          | fails | takesNothing | flushFails =>
            simp only [Line.ping, hwriting, hw] at hpolled
            exact ⟨⟨_, by rw [hpolled]⟩, by rw [hpolled]⟩

section Uses

variable {s}

theorem triesPing_of_timesOut (h : s.timesOut = true)
    (many : s.poller.threshold ≤ s.poller.idlePolls) : s.TriesPing := by
  cases s.tallies_poll with
  | keeps notEmpty | restarts notEmpty => exact absurd h (by simp [notEmpty])
  | idle _ few => exact absurd few (Nat.not_lt.2 many)
  | ping _ _ tries => exact tries

theorem staysIdle_of_timesOut (h : s.timesOut = true)
    (few : s.poller.idlePolls < s.poller.threshold) : s.StaysIdle := by
  cases s.tallies_poll with
  | keeps notEmpty | restarts notEmpty => exact absurd h (by simp [notEmpty])
  | idle _ _ stays => exact stays
  | ping _ many => exact absurd few (Nat.not_lt.2 many)

theorem written_of_not_timesOut (h : s.timesOut = false) :
    s.poll.state.line.written = s.line.written := by
  cases s.tallies_poll with
  | keeps _ _ _ written | restarts _ _ _ written => exact written
  | idle empty | ping empty => exact absurd empty (by simp [h])

/-- An empty poll reads no data. -/
theorem readsData_of_timesOut (h : s.timesOut = true) : s.readsData = false := by
  have hreads : s.reads = [.timedOut] := by simpa [timesOut] using h
  simp [readsData, hreads, ReadOutcome.content]

theorem idlePolls_of_readsData (h : s.readsData = true) :
    s.poll.state.poller.idlePolls = 0 := by
  cases s.tallies_poll with
  | restarts _ _ idlePolls => exact idlePolls
  | keeps _ noData => exact absurd h (by simp [noData])
  | idle empty | ping empty => exact absurd h (by simp [readsData_of_timesOut empty])

end Uses

/-- A read that fails is told and leaves the count as it is. -/
theorem poll_of_failed {cause : String} (h : s.reads = [.failed cause]) :
    s.poll.result = .error (.io cause) ∧ s.poll.state.poller = s.poller := by
  cases hclosed : s.poller.closed with
  | true =>
    rw [reads_of_closed hclosed] at h
    cases h
  | false =>
    obtain ⟨outcome, line, hreads, -, hmeets⟩ := poll_meets hclosed
    rw [h, List.singleton_inj] at hreads
    subst hreads
    generalize s.poll = polled at hmeets ⊢
    cases hmeets with
    | failed => exact ⟨rfl, rfl⟩

theorem TriesPing.pingFails {s : Polling} (h : s.TriesPing) (hfails : s.pingFails = true) :
    (∃ cause, s.poll.result = .error (.io cause)) ∧
      s.poll.state.poller.idlePolls = s.poller.idlePolls := by
  refine h.failed fun haccepted => ?_
  rw [Polling.pingFails, (h.sent haccepted).1] at hfails
  simp [Except.isOk, Except.toBool] at hfails

/-- If an empty poll has tried to write and has not failed, the byte was taken. -/
theorem TriesPing.accepted {s : Polling} (h : s.TriesPing) (hempty : s.timesOut = true)
    (hok : s.pingFails = false) : s.line.writing = .accepted := by
  by_contra hrefused
  obtain ⟨⟨cause, hresult⟩, -⟩ := h.failed hrefused
  simp [Polling.pingFails, hempty, hresult, Except.isOk, Except.toBool] at hok

theorem StaysIdle.pingFails {s : Polling} (h : s.StaysIdle) : s.pingFails = false := by
  simp [Polling.pingFails, h.result, Except.isOk, Except.toBool]

/-! ### The polls since the last data -/

/-- The polls since the last one that read data, or since the first one. -/
def sinceData (visited : List Polling) : List Polling := visited.rtakeWhile (!·.readsData)

/-- How many of some polls were empty. -/
def timeouts (visited : List Polling) : Nat := visited.countP (·.timesOut)

/-- The last empty one of some polls. -/
def lastTimeout? (visited : List Polling) : Option Polling :=
  (visited.filter (·.timesOut)).getLast?

variable (visited : List Polling) {s : Polling}

@[simp] theorem sinceData_nil : sinceData [] = [] := rfl

theorem sinceData_concat_data (h : s.readsData = true) : sinceData (visited ++ [s]) = [] :=
  List.rtakeWhile_concat_neg _ _ _ (by simp [h])

theorem sinceData_concat (h : s.readsData = false) :
    sinceData (visited ++ [s]) = sinceData visited ++ [s] :=
  List.rtakeWhile_concat_pos _ _ _ (by simp [h])

theorem timeouts_concat :
    timeouts (visited ++ [s]) = timeouts visited + if s.timesOut then 1 else 0 := by
  rw [timeouts, List.countP_append, List.countP_singleton, timeouts]

theorem lastTimeout?_concat :
    lastTimeout? (visited ++ [s]) = if s.timesOut then some s else lastTimeout? visited := by
  rw [lastTimeout?, List.filter_append, lastTimeout?]
  cases h : s.timesOut <;> simp [h]

end Polling

namespace Poller

open Polling

/-- What the polls since the last data say of the count of empty polls. -/
structure Paces (threshold : Nat) (visited : List Polling) (p : Poller) : Prop where
  threshold_eq : p.threshold = threshold
  idlePolls_le : p.idlePolls ≤ threshold
  /-- As long as no byte failed, the count runs from zero to the threshold again and again. -/
  cycle : (∀ t ∈ sinceData visited, t.pingFails = false) →
    p.idlePolls = timeouts (sinceData visited) % (threshold + 1)
  /-- Since a byte failed, the count is at the threshold. -/
  retry : ∀ t ∈ lastTimeout? (sinceData visited), t.pingFails = true → p.idlePolls = threshold

theorem paces_start (config : StreamConfig) :
    Paces config.idlePollsBeforePing.toNat [] { config } where
  threshold_eq := rfl
  idlePolls_le := Nat.zero_le _
  cycle _ := rfl
  retry _ h := by cases h

section Step

variable {threshold : Nat} {visited : List Polling} {p : Poller}

/-- In the cycle the next empty poll tries to write exactly where one more than the threshold
divides its number. -/
theorem Paces.dvd_iff (h : Paces threshold visited p)
    (hok : ∀ t ∈ sinceData visited, t.pingFails = false) :
    threshold + 1 ∣ timeouts (sinceData visited) + 1 ↔ threshold ≤ p.idlePolls := by
  have hle := h.idlePolls_le
  rw [Nat.dvd_iff_mod_eq_zero, Nat.succ_mod_succ_eq_zero_iff, ← h.cycle hok]
  omega

/-- **One poll keeps the pace.** -/
theorem Paces.poll (h : Paces threshold visited p) (line : Line) :
    Paces threshold (visited ++ [⟨p, line⟩]) (Polling.poll ⟨p, line⟩).state.poller := by
  have hthreshold : (Polling.poll ⟨p, line⟩).state.poller.threshold = threshold :=
    (polls_poll ⟨p, line⟩).threshold.trans h.threshold_eq
  have hle := h.idlePolls_le
  cases tallies_poll ⟨p, line⟩ with
  | keeps notEmpty noData idlePolls =>
    refine ⟨hthreshold, idlePolls ▸ hle, fun hok => ?_, fun t ht hfails => ?_⟩
    · rw [sinceData_concat _ noData] at hok ⊢
      rw [timeouts_concat, notEmpty, idlePolls]
      exact h.cycle fun t ht => hok t (List.mem_append_left _ ht)
    · rw [sinceData_concat _ noData, lastTimeout?_concat, notEmpty] at ht
      exact idlePolls.trans (h.retry t ht hfails)
  | restarts notEmpty data idlePolls =>
    refine ⟨hthreshold, idlePolls ▸ Nat.zero_le _, fun _ => ?_, fun t ht => ?_⟩
    · rw [sinceData_concat_data _ data, idlePolls]
      rfl
    · rw [sinceData_concat_data _ data] at ht
      cases ht
  | idle empty few stays =>
    have noData := readsData_of_timesOut empty
    have hfew : p.idlePolls < threshold := h.threshold_eq ▸ few
    refine ⟨hthreshold, stays.idlePolls ▸ hfew, fun hok => ?_, fun t ht hfails => ?_⟩
    · rw [sinceData_concat _ noData] at hok ⊢
      rw [timeouts_concat, if_pos empty, stays.idlePolls]
      have hcycle := h.cycle fun t ht => hok t (List.mem_append_left _ ht)
      rw [← Nat.mod_add_mod, ← hcycle, Nat.mod_eq_of_lt (Nat.add_lt_add_right hfew 1)]
    · rw [sinceData_concat _ noData, lastTimeout?_concat, if_pos empty, Option.mem_some] at ht
      subst ht
      rw [stays.pingFails] at hfails
      cases hfails
  | ping empty many tries =>
    have noData := readsData_of_timesOut empty
    have hat : p.idlePolls = threshold := Nat.le_antisymm hle (h.threshold_eq ▸ many)
    refine ⟨hthreshold, ?_, fun hok => ?_, fun t ht hfails => ?_⟩
    · by_cases haccepted : line.writing = .accepted
      · exact (tries.sent haccepted).2.2 ▸ Nat.zero_le _
      · exact (tries.failed haccepted).2 ▸ hle
    · rw [sinceData_concat _ noData] at hok ⊢
      rw [timeouts_concat, if_pos empty]
      have hcycle := h.cycle fun t ht => hok t (List.mem_append_left _ ht)
      have hsent := tries.sent (tries.accepted empty (hok _ (by simp)))
      rw [hsent.2.2, eq_comm, Nat.succ_mod_succ_eq_zero_iff, ← hcycle, hat]
    · rw [sinceData_concat _ noData, lastTimeout?_concat, if_pos empty, Option.mem_some] at ht
      subst ht
      exact (tries.pingFails hfails).2.trans hat

end Step

/-- **After any polls the count keeps the pace.** -/
theorem paces_afterPolls (config : StreamConfig) (lines : List Line) :
    Paces config.idlePollsBeforePing.toNat (({ config } : Poller).visits lines)
      (({ config } : Poller).afterPolls lines) := by
  induction lines using List.reverseRecOn with
  | nil => exact paces_start config
  | append_singleton lines line ih =>
    rw [visits_concat, afterPolls_concat]
    exact ih.poll line

/-- A closed poller does nothing, whatever becomes of the line. -/
theorem poll_of_mem_visits {p : Poller} (h : p.closed = true) {lines : List Line} {t : Polling}
    (ht : t ∈ p.visits lines) : t.poll = { state := t, result := .ok .closed } := by
  induction lines with
  | nil => cases ht
  | cons line lines ih =>
    rw [visits, poll_of_closed h, List.mem_cons] at ht
    obtain rfl | ht := ht
    · exact poll_of_closed h
    · exact ih ht

/-- **When keep-alive bytes are sent.** A poller polls any number of times, and before each poll
anything may have happened to its line. Let `silent` be the polls since the last data.

* The count of empty polls never exceeds the threshold.
* If no byte has failed since the last data, every empty poll whose number is divided by one more
  than the threshold tries to write one byte, and the others stay idle and write nothing.
* If the last empty poll has failed to write its byte, the next one tries again.
* Such a failure is told and leaves the count at the threshold.
* A read that fails is told and keeps the count, data sets it to zero, and no poll writes anything
  unless it is empty.
* A poller that is closed, in whatever way, does nothing in all later polls. -/
theorem keepAlive_polls (config : StreamConfig) (lines : List Line) (line : Line) :
    let fresh : Poller := { config }
    let threshold := config.idlePollsBeforePing.toNat
    let silent := sinceData (fresh.visits lines)
    let s : Polling := ⟨fresh.afterPolls lines, line⟩
    s.poller.idlePolls ≤ threshold ∧
      (s.timesOut = true → (∀ t ∈ silent, t.pingFails = false) →
        if threshold + 1 ∣ timeouts silent + 1 then s.TriesPing else s.StaysIdle) ∧
      (s.timesOut = true → (∃ t ∈ lastTimeout? silent, t.pingFails = true) → s.TriesPing) ∧
      (s.pingFails = true →
        (∃ cause, s.poll.result = .error (.io cause)) ∧
          s.poll.state.poller.idlePolls = threshold) ∧
      (∀ cause, s.reads = [.failed cause] →
        s.poll.result = .error (.io cause) ∧
          s.poll.state.poller.idlePolls = s.poller.idlePolls) ∧
      (s.readsData = true → s.poll.state.poller.idlePolls = 0) ∧
      (s.timesOut = false → s.poll.state.line.written = s.line.written) ∧
      ∀ p : Poller, p.closed = true → ∀ later, ∀ t ∈ p.visits later,
        t.poll = { state := t, result := .ok .closed } := by
  intro fresh threshold silent s
  have hpaces : Paces threshold _ s.poller := paces_afterPolls config lines
  have hthreshold : s.poller.threshold = threshold := hpaces.threshold_eq
  refine ⟨hpaces.idlePolls_le, fun hempty hok => ?_, ?_, fun hfails => ?_, fun cause hfailed => ?_,
    idlePolls_of_readsData, written_of_not_timesOut,
    fun p hclosed later t ht => poll_of_mem_visits hclosed ht⟩
  · split_ifs with hdvd
    · exact triesPing_of_timesOut hempty (hthreshold ▸ (hpaces.dvd_iff hok).1 hdvd)
    · refine staysIdle_of_timesOut hempty (hthreshold ▸ Nat.lt_of_not_le fun hmany => ?_)
      exact hdvd ((hpaces.dvd_iff hok).2 hmany)
  · rintro hempty ⟨t, ht, hfails⟩
    exact triesPing_of_timesOut hempty (hthreshold ▸ (hpaces.retry t ht hfails).ge)
  · have hempty : s.timesOut = true := (Bool.and_eq_true_iff.1 hfails).1
    by_cases hfew : s.poller.idlePolls < s.poller.threshold
    · exact absurd hfails (by simp [(staysIdle_of_timesOut hempty hfew).pingFails])
    · have hmany := Nat.le_of_not_lt hfew
      obtain ⟨hresult, hkept⟩ := (triesPing_of_timesOut hempty hmany).pingFails hfails
      exact ⟨hresult, hkept.trans (Nat.le_antisymm hpaces.idlePolls_le (hthreshold ▸ hmany))⟩
  · obtain ⟨hresult, hpoller⟩ := poll_of_failed s hfailed
    exact ⟨hresult, by rw [hpoller]⟩

/-- A threshold of one. -/
def oneIdlePoll : StreamConfig := { idlePollsBeforePing := 1 }

/-- The fourth empty poll sends the second byte; and where the second one has failed to write, the
third one tries again. -/
theorem keepAlive_polls_oneIdlePoll :
    (Polling.poll ⟨({ config := oneIdlePoll } : Poller).afterPolls [{}, {}, {}], {}⟩).result =
        .ok .pingSent ∧
      (Polling.poll
        ⟨({ config := oneIdlePoll } : Poller).afterPolls [{}, { writing := .fails }], {}⟩).result =
        .ok .pingSent := by
  obtain ⟨-, hcycle, -⟩ := keepAlive_polls oneIdlePoll [{}, {}, {}] {}
  obtain ⟨-, -, hretry, -⟩ := keepAlive_polls oneIdlePoll [{}, { writing := .fails }] {}
  have hsecond := hcycle (by decide) (by decide)
  rw [if_pos (by decide)] at hsecond
  exact ⟨(hsecond.sent rfl).1, ((hretry (by decide) ⟨_, rfl, by decide⟩).sent rfl).1⟩

end Poller

end TimingFeed
