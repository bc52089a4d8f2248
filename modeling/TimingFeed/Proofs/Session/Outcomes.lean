import TimingFeed.Proofs.Cipher.Lifecycle
import TimingFeed.Proofs.Connection.Ledger
import TimingFeed.Proofs.Session.Calls

/-!
# What a session tells of the key

A session compares the status of its search before and after each packet, and tells of an outcome
that is new: a key, a feed in clear, or a failure. Main statement: `handleAll_outcomes`. Each
failure is counted and logged once in the stretch of packets where it happens, and the key once in
the whole run.

* `KeyStatus.news` is the outcome that a packet brings, if it brings one;
* `Session.tidings` are the events of a session that tell of outcomes: `tidings_handle` says which
  these are for one packet, `outcomes_handleAll` for a run from any state;
* `Session.stretchEnds` are the places of a run where a stretch ends: before each packet that
  restarts the cipher, and at the end of the run.
-/

namespace TimingFeed

/-- The counters of keys and of failures show how many of these there were. -/
theorem Metrics.recordAll_outcomes (m : Metrics) (es : List MetricEvent) :
    (m.recordAll es).keysRecovered = m.keysRecovered + .ofNat (es.count .keyRecovered) ∧
      (m.recordAll es).keyRecoveryFailures =
        m.keyRecoveryFailures + .ofNat (es.count .keyRecoveryFailed) := by
  refine ⟨recordAll_count m es keysRecovered _ ?_,
    recordAll_count m es keyRecoveryFailures _ ?_⟩ <;>
  · intro m e
    cases e with
    | connectionClosed =>
      simp only [record]
      split <;> exact (UInt64.add_zero _).symm
    | _ => simp [record]

namespace KeyStatus

/-- What an outcome counts as. -/
def metric? : KeyStatus → Option MetricEvent
  | recovered _ | inClear => some .keyRecovered
  | failed _ => some .keyRecoveryFailed
  | start | inProgress _ => none

/-- What the log says of an outcome. -/
def line? : KeyStatus → Option LogLine
  | recovered key =>
    some ⟨.info, "Decryption key recovered",
      [("key", "0x" ++ String.ofList (Text.hexFixed .lower 8 key.toNat))]⟩
  | inClear => some ⟨.info, "Feed is not encrypted", []⟩
  | failed cause =>
    some ⟨.warn, "Decryption key could not be recovered", [("error", cause.message)]⟩
  | start | inProgress _ => none

/-- Whether the attempt has failed. -/
def isFailed : KeyStatus → Bool
  | failed _ => true
  | start | inProgress _ | recovered _ | inClear => false

/-- The outcome that a packet brings: none if there was one before. -/
def news (before after : KeyStatus) : List KeyStatus :=
  if before.isFinished then [] else [after].filter (·.isFinished)

/-- The event that tells of an outcome. -/
def event? : KeyStatus → Option SessionEvent
  | recovered key => some (.keyRecovered key)
  | inClear => some .feedInClear
  | failed cause => some (.recoveryFailed cause)
  | start | inProgress _ => none

/-- An outcome is a failure, or the key is known. -/
theorem filter_isFinished (st : KeyStatus) :
    [st].filter (·.isFinished) = [st].filter (·.isFailed) ++ [st].filter (·.key?.isSome) := by
  cases st <;> rfl

/-- It is told by one event, which counts and is logged as the outcome does. -/
theorem filterMap_event? (outcomes : List KeyStatus) :
    (outcomes.filterMap event?).filterMap SessionEvent.metric? = outcomes.filterMap metric? ∧
      (outcomes.filterMap event?).filterMap SessionEvent.line? = outcomes.filterMap line? := by
  rw [List.filterMap_filterMap, List.filterMap_filterMap]
  constructor <;>
  · congr 1
    funext st
    cases st <;> rfl

end KeyStatus

namespace KeySearch

variable (m : Marker) (s : KeySearch) {p : Packet}

/-- An outcome stays until the cipher restarts. -/
theorem status_observe_of_finished (hp : p.restartsCipher = false)
    (h : s.status.isFinished = true) : (s.observe m p).status = s.status := by
  cases s with
  | recovered key => rw [observe_of_key (s := .recovered key) (Option.some_ne_none key)]
  | inClear => rw [observe_of_key (s := .inClear) (Option.some_ne_none 0#32)]
  | failed cause => rw [observe_failed, if_neg (by simp [hp])]
  | start | solving => cases h

/-- A restart of the cipher keeps a known key and nothing else. -/
theorem status_observe_restart (hp : p.restartsCipher = true) :
    (s.observe m p).status = if s.status.key?.isSome then s.status else .start := by
  rw [observe, if_pos hp]
  cases s <;> rfl

end KeySearch

namespace Session

open KeyStatus (news)

/-- The events that tell of outcomes. -/
def tidings (events : List SessionEvent) : List SessionEvent := events.filter (·.metric?.isSome)

/-- The lines of some events, those aside that tell of a full cache. -/
def keyLines (events : List SessionEvent) : List LogLine :=
  (events.filterMap SessionEvent.line?).filter (·.message ≠ cacheFullMessage)

section Tidings

variable (events more : List SessionEvent)

@[simp] theorem tidings_append : tidings (events ++ more) = tidings events ++ tidings more :=
  List.filter_append ..

/-- Only these events are counted. -/
theorem metrics_tidings :
    (tidings events).filterMap SessionEvent.metric? = events.filterMap SessionEvent.metric? := by
  rw [tidings, List.filterMap_filter]
  congr 1
  funext e
  cases e <;> rfl

/-- The lines are theirs. -/
theorem lines_tidings : (tidings events).filterMap SessionEvent.line? = keyLines events := by
  rw [tidings, List.filterMap_filter, keyLines, List.filter_filterMap]
  congr 1
  funext e
  cases e <;> simp [SessionEvent.line?, SessionEvent.metric?, Option.filter, cacheFullMessage]

end Tidings

/-! ### One packet -/

variable (s : Session) (p : Packet)

/-- Keeping a packet tells nothing of the key. -/
theorem tidings_keep : tidings (s.keep p).2 = [] := by
  unfold keep
  split_ifs <;> rfl

/-- Every change of the status that is told is an outcome. -/
theorem tidings_statusEvents (before after : KeyStatus) :
    tidings (statusEvents before after) = statusEvents before after := by
  unfold statusEvents
  split_ifs
  · rfl
  · cases after <;> rfl

@[simp] theorem status_handle : (s.handle p).1.status = (s.tracker.observe p).status := by
  rw [status, tracker_handle]

/-- No packet changes an outcome, but that a failure ends with its stretch. -/
theorem status_observe_of_isFinished {t : Tracker} (h : t.status.isFinished = true) :
    (t.observe p).status =
      if t.status.isFailed = true ∧ p.restartsCipher = true then .start else t.status := by
  cases hp : p.restartsCipher with
  | false =>
    rw [if_neg (by simp)]
    exact t.search.status_observe_of_finished t.marker hp h
  | true =>
    have hrestart : (t.observe p).status = _ := t.search.status_observe_restart t.marker hp
    rw [hrestart, Tracker.status]
    rw [Tracker.status] at h
    cases hstatus : t.search.status <;> rw [hstatus] at h <;> first | rfl | cases h

/-- One packet changes the status to an outcome only if there was none before: a change from one
outcome to another cannot be. -/
theorem statusEvents_observe (t : Tracker) :
    statusEvents t.status (t.observe p).status =
      (news t.status (t.observe p).status).filterMap KeyStatus.event? := by
  have hchange : t.status.isFinished = true →
      (t.observe p).status = t.status ∨ (t.observe p).status = .start := by
    intro hfinished
    rw [status_observe_of_isFinished p hfinished]
    split_ifs
    · exact .inr rfl
    · exact .inl rfl
  generalize t.status = before, (t.observe p).status = after at hchange ⊢
  cases hfinished : before.isFinished with
  | true =>
    rw [news, if_pos hfinished]
    obtain rfl | rfl := hchange hfinished <;> simp [statusEvents]
  | false =>
    rw [news, if_neg (by simp [hfinished])]
    unfold statusEvents
    split_ifs with hsame
    · subst hsame
      rw [List.filter_eq_nil_iff.2 (by simpa using hfinished), List.filterMap_nil]
    · cases after <;> rfl

/-- What one packet does to the outcomes: a failure is left behind where the cipher restarts. -/
theorem news_observe (t : Tracker) :
    [t.status].filter (·.isFinished) ++ news t.status (t.observe p).status =
      (if p.restartsCipher then [t.status].filter (·.isFailed) else []) ++
        [(t.observe p).status].filter (·.isFinished) := by
  cases hp : p.restartsCipher with
  | true =>
    have hrestart : (t.observe p).status = _ := t.search.status_observe_restart t.marker hp
    rw [hrestart, Tracker.status]
    cases t.search.status <;> rfl
  | false =>
    rw [if_neg Bool.false_ne_true, List.nil_append]
    cases hfinished : t.status.isFinished with
    | true =>
      have hstays : (t.observe p).status = t.status :=
        t.search.status_observe_of_finished t.marker hp hfinished
      rw [hstays, news, if_pos hfinished, List.append_nil]
    | false =>
      rw [news, if_neg (by simp [hfinished]), List.filter_eq_nil_iff.2 (by simpa using hfinished),
        List.nil_append]

/-- **An outcome is told with the packet that brings it**, and not again. -/
theorem tidings_handle :
    tidings (s.handle p).2 = (news s.status (s.handle p).1.status).filterMap KeyStatus.event? := by
  have hkeep : tidings ({ s with tracker := s.tracker.observe p }.keep p).2 = [] :=
    tidings_keep _ p
  have hforwarded : tidings [.forwarded p] = [] := rfl
  rw [status_handle, handle, tidings_append, tidings_append, hkeep, hforwarded,
    tidings_statusEvents, List.append_nil, List.append_nil]
  exact statusEvents_observe p s.tracker

/-! ### Runs -/

/-- The beginnings of a run that end where a stretch ends: before a packet that restarts the
cipher, and at the end. -/
def stretchEnds : List Packet → List (List Packet)
  | [] => [[]]
  | p :: rest =>
    (if p.restartsCipher then [[]] else []) ++ (stretchEnds rest).map (p :: ·)

/-- The failures of a run, one for each stretch at whose end the search has failed. -/
def failures (packets : List Packet) : List KeyStatus :=
  ((stretchEnds packets).map fun earlier => (s.handleAll earlier).1.status).filter (·.isFailed)

/-- The key after a run, if it is known. -/
def knownKey (packets : List Packet) : List KeyStatus :=
  [(s.handleAll packets).1.status].filter (·.key?.isSome)

variable (rest : List Packet)

theorem failures_cons :
    s.failures (p :: rest) =
      (if p.restartsCipher then [s.status].filter (·.isFailed) else []) ++
        (s.handle p).1.failures rest := by
  rw [failures, failures, stretchEnds, List.map_append, List.filter_append, List.map_map]
  congr 1
  split_ifs <;> rfl

theorem knownKey_cons : s.knownKey (p :: rest) = (s.handle p).1.knownKey rest := rfl

/-- **What a run tells**, from any state: the outcome that there was already, and what is told,
are the failures of the stretches and then the key. -/
theorem outcomes_handleAll (packets : List Packet) :
    ([s.status].filter (·.isFinished)).filterMap KeyStatus.event? ++
        tidings (s.handleAll packets).2 =
      (s.failures packets ++ s.knownKey packets).filterMap KeyStatus.event? := by
  induction packets generalizing s with
  | nil =>
    rw [KeyStatus.filter_isFinished]
    exact List.append_nil _
  | cons p rest ih =>
    rw [handleAll_cons, tidings_append, tidings_handle, failures_cons, knownKey_cons,
      List.append_assoc, List.filterMap_append, ← ih, ← List.append_assoc, ← List.append_assoc,
      ← List.filterMap_append, ← List.filterMap_append]
    congr 2
    rw [status_handle]
    exact news_observe p s.tracker

/-- The events that tell of outcomes are those that are counted and those whose lines tell of the
key. -/
theorem told_of_tidings {events : List SessionEvent} {outcomes : List KeyStatus}
    (h : tidings events = outcomes.filterMap KeyStatus.event?) :
    events.filterMap SessionEvent.metric? = outcomes.filterMap KeyStatus.metric? ∧
      keyLines events = outcomes.filterMap KeyStatus.line? := by
  obtain ⟨hmetrics, hlines⟩ := KeyStatus.filterMap_event? outcomes
  rw [← metrics_tidings, ← lines_tidings, h]
  exact ⟨hmetrics, hlines⟩

/-- Failures count as such. -/
theorem metrics_failures (packets : List Packet) :
    (s.failures packets).filterMap KeyStatus.metric? =
      List.replicate (s.failures packets).length .keyRecoveryFailed := by
  have hfailed : ∀ st ∈ s.failures packets,
      st.metric? = (some ∘ fun _ => MetricEvent.keyRecoveryFailed) st := by
    intro st hst
    have hst := (List.mem_filter.1 hst).2
    cases st <;> first | rfl | cases hst
  rw [List.filterMap_congr hfailed, List.filterMap_eq_map, List.map_const']

/-- A known key counts once. -/
theorem metrics_knownKey (packets : List Packet) :
    (s.knownKey packets).filterMap KeyStatus.metric? =
      if (s.handleAll packets).1.key? = none then [] else [.keyRecovered] := by
  rw [knownKey, key?, Tracker.key?, ← Session.status]
  cases (s.handleAll packets).1.status <;> rfl

/-- **Each outcome is counted and logged once.** A fresh session with any marker takes packets.

* What was counted and logged of the key are the failures of the stretches between restarts of the
  cipher, one for each stretch at whose end the search has failed, and then the key, if it is known.
* So the counters of keys and of failures show how many these are.
* The next packet is counted and logged if it brings an outcome where there was none.
* Once there is an outcome no packet changes it, but that a failure ends with its stretch. -/
theorem handleAll_outcomes (m : Marker) (limit : Nat) (packets : List Packet) :
    let fresh := start m limit
    let (s, events) := fresh.handleAll packets
    let told := fresh.failures packets ++ fresh.knownKey packets
    (events.filterMap SessionEvent.metric? = told.filterMap KeyStatus.metric? ∧
        keyLines events = told.filterMap KeyStatus.line?) ∧
      (∀ counters : Metrics,
        let after := counters.recordAll (events.filterMap SessionEvent.metric?)
        after.keysRecovered = counters.keysRecovered + (if s.key? = none then 0 else 1) ∧
          after.keyRecoveryFailures =
            counters.keyRecoveryFailures + .ofNat (fresh.failures packets).length) ∧
      (∀ p,
        let outcome := news s.status (s.handle p).1.status
        (s.handle p).2.filterMap SessionEvent.metric? = outcome.filterMap KeyStatus.metric? ∧
          keyLines (s.handle p).2 = outcome.filterMap KeyStatus.line?) ∧
      ∀ p, s.status.isFinished = true →
        (s.handle p).1.status =
          if s.status.isFailed = true ∧ p.restartsCipher = true then .start else s.status := by
  intro fresh
  have htold := told_of_tidings (outcomes_handleAll fresh packets)
  have hkeys := fresh.metrics_knownKey packets
  generalize fresh.handleAll packets = run at htold hkeys ⊢
  obtain ⟨s, events⟩ := run
  dsimp only at htold hkeys ⊢
  refine ⟨htold, fun counters => ?_, fun p => told_of_tidings (tidings_handle s p),
    fun p hfinished => ?_⟩
  · have hcounted : events.filterMap SessionEvent.metric? =
        List.replicate (fresh.failures packets).length .keyRecoveryFailed ++
          if s.key? = none then [] else [.keyRecovered] := by
      rw [htold.1, List.filterMap_append, metrics_failures, hkeys]
    obtain ⟨hrecovered, hfailures⟩ := counters.recordAll_outcomes
      (events.filterMap SessionEvent.metric?)
    rw [hrecovered, hfailures, hcounted, List.count_append, List.count_append]
    constructor <;> split_ifs <;> simp [List.count_replicate]
  · rw [status_handle]
    exact status_observe_of_isFinished p hfinished

/-- Two values that do not begin with the notice, and then a connection that does. -/
def lateNotice : List Packet :=
  twoValues ++
    (Keystream.start 0xC0FFEE42#32).replay (openingEvent :: openingNotice :: twoValues)

/-- The first value is a failure, the second one is not told of again; the event ends this stretch
and the last value gives the key. -/
theorem handleAll_outcomes_lateNotice :
    ((start .pleaseWait 0).handleAll lateNotice).2.filterMap SessionEvent.metric? =
        [.keyRecoveryFailed, .keyRecovered] ∧
      keyLines ((start .pleaseWait 0).handleAll lateNotice).2 =
        [⟨.warn, "Decryption key could not be recovered",
            [("error", (RecoveryError.unexpectedCategory 1 1).message)]⟩,
          ⟨.info, "Decryption key recovered", [("key", "0xc0ffee42")]⟩] ∧
      (((start .pleaseWait 0).handleAll lateNotice).1.handle openingEvent).1.status =
        .recovered 0xC0FFEE42#32 := by
  obtain ⟨⟨hcounted, hlogged⟩, -, -, hstays⟩ := handleAll_outcomes .pleaseWait 0 lateNotice
  exact ⟨hcounted.trans (by decide +kernel), hlogged.trans (by decide +kernel),
    (hstays openingEvent (by decide +kernel)).trans (by decide +kernel)⟩

end Session

end TimingFeed
