import Mathlib.Data.UInt
import Mathlib.Logic.Relation
import TimingFeed.Proofs.Connection.Operations

/-!
# The counters balance

Any number of pollers share the counters, and each operation of one of them counts a few events.
Main statement: `Pollers.metrics_of_reachable`. After any operations, in any order, the counters tell what
these operations came to.

* `Metrics.recordAll_count` says what a counter of single events shows, `recordAll_sizes` what the
  counters of reads show, and `toNat_connectionsActive` what the gauge shows;
* `Polling.Counts` says that the counted events agree with an account: `counts_poll` for a poll,
  `Ends.counts` and `Acts.counts` for runs and other operations;
* `Pollers.Operates` is one operation of one of the pollers, and `Balanced.operates` says that it
  keeps the balance.
-/

namespace TimingFeed

/-! ### What counters show -/

/-- The size of a counted read. -/
def MetricEvent.size? : MetricEvent → Option UInt64
  | bytesRead count => some count
  | connectionEstablished | connectionClosed | connectionError | idlePoll | pingSent
  | packetFramed | framingError | keyRecovered | keyRecoveryFailed => none

namespace Metrics

variable (m : Metrics) (es : List MetricEvent)

/-- A counter that goes up by one at one kind of event, and at no other. -/
theorem recordAll_count (counter : Metrics → UInt64) (event : MetricEvent)
    (h : ∀ m e, counter (m.record e) = counter m + if e = event then 1 else 0) :
    counter (m.recordAll es) = counter m + .ofNat (es.count event) := by
  induction es generalizing m with
  | nil => exact (UInt64.add_zero _).symm
  | cons e es ih =>
    rw [recordAll_cons, ih, h, List.count_cons, UInt64.ofNat_add, UInt64.add_assoc,
      UInt64.add_comm (.ofNat _)]
    congr 2
    by_cases he : e = event <;> simp [he]

/-- The counters of single events show how many of these there were. -/
theorem recordAll_counters :
    (m.recordAll es).connectionsTotal =
        m.connectionsTotal + .ofNat (es.count .connectionEstablished) ∧
      (m.recordAll es).idlePolls = m.idlePolls + .ofNat (es.count .idlePoll) ∧
      (m.recordAll es).pingsSent = m.pingsSent + .ofNat (es.count .pingSent) ∧
      (m.recordAll es).packetsFramed = m.packetsFramed + .ofNat (es.count .packetFramed) ∧
      (m.recordAll es).framingErrors = m.framingErrors + .ofNat (es.count .framingError) := by
  refine ⟨recordAll_count m es connectionsTotal _ ?_, recordAll_count m es idlePolls _ ?_,
    recordAll_count m es pingsSent _ ?_, recordAll_count m es packetsFramed _ ?_,
    recordAll_count m es framingErrors _ ?_⟩ <;>
  · intro m e
    cases e with
    | connectionClosed =>
      simp only [record]
      split <;> exact (UInt64.add_zero _).symm
    | _ => simp [record]

/-- The counters of reads show their number and their total size. -/
theorem recordAll_sizes :
    (m.recordAll es).readsTotal = m.readsTotal + .ofNat (es.filterMap (·.size?)).length ∧
      (m.recordAll es).bytesReceived = m.bytesReceived + (es.filterMap (·.size?)).sum := by
  induction es generalizing m with
  | nil => exact ⟨(UInt64.add_zero _).symm, (UInt64.add_zero _).symm⟩
  | cons e es ih =>
    obtain ⟨hreads, hbytes⟩ := ih (m.record e)
    rw [recordAll_cons, hreads, hbytes]
    cases e with
    | bytesRead count =>
      simp [record, MetricEvent.size?, UInt64.add_assoc, UInt64.add_comm 1]
    | connectionClosed =>
      simp only [record]
      split <;> exact ⟨rfl, rfl⟩
    | _ => exact ⟨rfl, rfl⟩

/-- Where no connection is opened, the gauge goes down with each that is closed, but never below
zero. -/
theorem toNat_connectionsActive (h : es.count .connectionEstablished = 0) :
    (m.recordAll es).connectionsActive.toNat =
      m.connectionsActive.toNat - es.count .connectionClosed := by
  induction es generalizing m with
  | nil => rfl
  | cons e es ih =>
    rw [List.count_cons] at h
    rw [recordAll_cons, ih _ (Nat.eq_zero_of_add_eq_zero_right h), List.count_cons]
    cases e with
    | connectionEstablished => simp at h
    | connectionClosed =>
      simp only [record]
      split
      · next hzero => simp [hzero]
      · next hne =>
        have hone : (1 : UInt64) ≤ m.connectionsActive := by
          rw [UInt64.le_iff_toNat_le, UInt64.toNat_one, Nat.one_le_iff_ne_zero]
          exact fun hzero => hne (UInt64.toNat_inj.1 hzero)
        rw [UInt64.toNat_sub_of_le _ _ hone]
        simp
        omega
    | _ => rfl

end Metrics

/-- The blocks of bytes that were read. -/
def Account.blocks (a : Account) : List (List UInt8) :=
  (a.reads.map (·.content)).filter (!·.isEmpty)

namespace Account

@[simp] theorem blocks_append (a b : Account) : (a ++ b).blocks = a.blocks ++ b.blocks := by
  rw [blocks, reads_append, List.map_append, List.filter_append, blocks, blocks]

theorem flatten_blocks (a : Account) : a.blocks.flatten = a.content := by
  rw [blocks, List.flatten_filter_not_isEmpty, content, List.flatMap_def]

end Account

/-- Sizes that are counted in words add up to the total size. -/
theorem sum_ofNat_length (blocks : List (List UInt8)) :
    (blocks.map fun block => UInt64.ofNat block.length).sum = .ofNat blocks.flatten.length := by
  induction blocks with
  | nil => rfl
  | cons block blocks ih => simp [ih]

namespace Polling

/-! ### What operations count -/

/-- The events counted on the way from `s` to `t` agree with an account, and the poller was closed
on the way just if that was counted. -/
structure Counts (s : Polling) (a : Account) (t : Polling) (es : List MetricEvent) : Prop where
  established : es.count .connectionEstablished = 0
  closed : es.count .connectionClosed + s.poller.closed.toNat = t.poller.closed.toNat
  sizes : es.filterMap (·.size?) = a.blocks.map (.ofNat ·.length)
  idle : es.count .idlePoll = a.reads.count .timedOut
  pings : es.count .pingSent = a.outcomes.count .pingSent
  framed : es.count .packetFramed = a.delivered.length
  errors : es.count .framingError = 0

variable {s t u : Polling} {a b : Account} {es fs : List MetricEvent} {bytes : List UInt8}
  {packets : List Packet}

/-- So it is where nothing happens. -/
theorem Counts.of_quiet (h : t.poller.closed = s.poller.closed) : s.Counts {} t [] where
  established := rfl
  closed := by rw [h, List.count_nil, Nat.zero_add]
  sizes := rfl
  idle := rfl
  pings := rfl
  framed := rfl
  errors := rfl

theorem Counts.trans (h : s.Counts a t es) (hu : t.Counts b u fs) :
    s.Counts (a ++ b) u (es ++ fs) where
  established := by rw [List.count_append, h.established, hu.established]
  closed := by
    have hclosed := h.closed
    have hlater := hu.closed
    rw [List.count_append]
    omega
  sizes := by
    rw [List.filterMap_append, h.sizes, hu.sizes, Account.blocks_append, List.map_append]
  idle := by rw [List.count_append, h.idle, hu.idle, Account.reads_append, List.count_append]
  pings := by
    rw [List.count_append, h.pings, hu.pings, Account.outcomes_append, List.count_append]
  framed := by
    rw [List.count_append, h.framed, hu.framed, Account.delivered_append, List.length_append]
  errors := by rw [List.count_append, h.errors, hu.errors]

/-- **One poll counts what it comes to.** -/
theorem counts_poll (h : s.poller.Received bytes packets) :
    s.Counts s.account s.poll.state s.poll.counted := by
  cases hclosed : s.poller.closed with
  | true =>
    rw [account, reads_of_closed hclosed, poll_of_closed hclosed]
    exact ⟨rfl, Nat.zero_add _, rfl, rfl, rfl, rfl, rfl⟩
  | false =>
    obtain ⟨outcome, line, hread, -, hmeets⟩ := poll_meets hclosed
    rw [account, hread]
    generalize s.poll = polled at hmeets ⊢
    cases hmeets with
    | timedOut =>
      unfold Poller.onIdle
      split
      · exact ⟨rfl, Nat.zero_add _, rfl, rfl, rfl, rfl, rfl⟩
      · split <;> exact ⟨rfl, Nat.zero_add _, rfl, rfl, rfl, rfl, rfl⟩
    | failed => exact ⟨rfl, Nat.zero_add _, rfl, rfl, rfl, rfl, rfl⟩
    | ended => exact ⟨rfl, by rw [hclosed]; rfl, rfl, rfl, rfl, rfl, rfl⟩
    | @data chunk nonempty =>
      obtain ⟨framer, later, hdata, -⟩ := h.onData line chunk
      rw [hdata, List.map_const']
      constructor <;>
        simp [List.count_replicate, MetricEvent.size?, Account.blocks, ReadOutcome.content,
          Except.toOption, nonempty]

/-- A run that waits has counted what it has read. -/
theorem Waits.counts (h : s.Waits t a es) : s.Counts a t es := by
  cases h with
  | reading => exact .of_quiet rfl
  | writing => exact ⟨rfl, Nat.zero_add _, rfl, rfl, rfl, rfl, rfl⟩

/-- A signal closes a poller that is open, and counts just that. -/
theorem counts_shutDown (s : Polling) (time : Nat) :
    s.Counts {} (s.shutDown time).state (s.shutDown time).counted := by
  unfold shutDown Poller.close
  cases hclosed : s.poller.closed with
  | true => exact .of_quiet rfl
  | false => exact ⟨rfl, by rw [hclosed]; rfl, rfl, rfl, rfl, rfl, rfl⟩

theorem Waits.counts_shutDown (h : s.Waits t a es) (time : Nat) :
    s.Counts a (t.shutDown time).state (es ++ (t.shutDown time).counted) := by
  rw [← a.append_empty]
  exact h.counts.trans (Polling.counts_shutDown t time)

/-- **A run counts what its polls come to.** -/
theorem Ends.counts {r : Polled Nat} (h : s.Ends a r) (hs : s.poller.Received bytes packets) :
    s.Counts a r.state r.counted := by
  induction h generalizing bytes packets with
  | stopped waits time => exact waits.counts_shutDown time
  | ended | failed => exact counts_poll hs
  | @turn s _ _ _ _ _ _ ih => exact (counts_poll hs).trans (ih ((advances_poll s).received hs))
  | @pause s _ _ time writing _ ih =>
    exact { ih ((advances_later s time writing).received hs) with }

theorem Acts.counts (h : s.Acts a t es) (hs : s.poller.Received bytes packets) :
    s.Counts a t es := by
  cases h with
  | poll => exact counts_poll hs
  | runUntil run => exact (ends_runUntil run).counts hs
  | stop waits time => exact waits.counts_shutDown time
  | pause => exact .of_quiet rfl

end Polling

/-! ### Pollers that share the counters -/

/-- A poller and all that it has counted. -/
structure Member where
  polling : Polling
  counted : List MetricEvent

/-- Pollers that share the counters, and what all their operations came to. -/
structure Pollers where
  members : List Member := []
  account : Account := {}
  metrics : Metrics := {}

namespace Pollers

/-- One operation of one of the pollers, or a new one. -/
inductive Operates (g : Pollers) : Pollers → Prop
  | create (config : StreamConfig) (line : Line) :
      Operates g
        { g with
          members := g.members ++ [⟨.start config line, Poller.startMetrics⟩]
          metrics := g.metrics.recordAll Poller.startMetrics }
  | act {i : Nat} {member : Member} {a : Account} {t : Polling} {counted : List MetricEvent}
      (here : g.members[i]? = some member) (acts : member.polling.Acts a t counted) :
      Operates g
        { members := g.members.set i ⟨t, member.counted ++ counted⟩
          account := g.account ++ a
          metrics := g.metrics.recordAll counted }

variable {g g' : Pollers}

/-- The counters agree with what the operations came to. -/
structure Balanced (g : Pollers) : Prop where
  received : ∀ member ∈ g.members, ∃ bytes packets,
    member.polling.poller.Received bytes packets
  closings : ∀ member ∈ g.members,
    member.counted.count .connectionClosed = member.polling.poller.closed.toNat
  total : g.metrics.connectionsTotal = .ofNat g.members.length
  active : g.members.length < UInt64.size →
    g.metrics.connectionsActive.toNat = g.members.countP (!·.polling.poller.closed)
  bytes : g.metrics.bytesReceived = .ofNat g.account.content.length
  reads : g.metrics.readsTotal = .ofNat g.account.blocks.length
  framed : g.metrics.packetsFramed = .ofNat g.account.delivered.length
  idle : g.metrics.idlePolls = .ofNat (g.account.reads.count .timedOut)
  pings : g.metrics.pingsSent = .ofNat (g.account.outcomes.count .pingSent)
  errors : g.metrics.framingErrors = 0

/-- At first nothing was done, and nothing was counted. -/
theorem balanced_start : ({} : Pollers).Balanced where
  received := nofun
  closings := nofun
  total := rfl
  active _ := rfl
  bytes := rfl
  reads := rfl
  framed := rfl
  idle := rfl
  pings := rfl
  errors := rfl

/-- A new poller is open. -/
theorem Balanced.create (h : g.Balanced) (config : StreamConfig) (line : Line) :
    Balanced
      { g with
        members := g.members ++ [⟨.start config line, Poller.startMetrics⟩]
        metrics := g.metrics.recordAll Poller.startMetrics } where
  received member hmember := by
    obtain hold | hnew := List.mem_append.1 hmember
    · exact h.received member hold
    · obtain rfl := List.mem_singleton.1 hnew
      exact ⟨_, _, Poller.received_start config line⟩
  closings member hmember := by
    obtain hold | hnew := List.mem_append.1 hmember
    · exact h.closings member hold
    · obtain rfl := List.mem_singleton.1 hnew
      rfl
  total := by
    show g.metrics.connectionsTotal + 1 = _
    rw [h.total, List.length_append, UInt64.ofNat_add]
    rfl
  active hsize := by
    rw [List.length_append, List.length_singleton] at hsize
    have hactive := h.active (Nat.lt_of_succ_lt hsize)
    have hle := List.countP_le_length (p := fun m => !m.polling.poller.closed) (l := g.members)
    show (g.metrics.connectionsActive + 1).toNat = _
    rw [UInt64.toNat_add, hactive, List.countP_append, UInt64.toNat_one]
    exact Nat.mod_eq_of_lt (by rw [UInt64.size] at hsize; omega)
  bytes := h.bytes
  reads := h.reads
  framed := h.framed
  idle := h.idle
  pings := h.pings
  errors := h.errors

/-- One poller less is open, if an operation closes one. -/
theorem countP_open_set {members : List Member} {i : Nat} {member : Member}
    (here : members[i]? = some member) {new : Member} {closings : Nat}
    (h : closings + member.polling.poller.closed.toNat = new.polling.poller.closed.toNat) :
    (members.set i new).countP (!·.polling.poller.closed) =
      members.countP (!·.polling.poller.closed) - closings := by
  have hopen : member.polling.poller.closed = false →
      0 < members.countP (!·.polling.poller.closed) := fun hopen =>
    List.countP_pos_iff.2 ⟨member, List.mem_of_getElem? here, by simp [hopen]⟩
  obtain ⟨hi, rfl⟩ := List.getElem?_eq_some_iff.1 here
  rw [List.countP_set hi]
  generalize members.countP (!·.polling.poller.closed) = count at hopen ⊢
  generalize members[i].polling.poller.closed = before at h hopen ⊢
  generalize new.polling.poller.closed = after at h ⊢
  cases before with
  | true =>
    -- A closed poller is not closed again, and it stays closed.
    cases after with
    | true => simp_all
    | false => simp at h
  | false =>
    have hpos := hopen rfl
    cases after <;> simp at h ⊢ <;> omega

/-- What one of the pollers does is counted. -/
theorem Balanced.act (h : g.Balanced) {i : Nat} {member : Member} {a : Account} {t : Polling}
    {counted : List MetricEvent} (here : g.members[i]? = some member)
    (acts : member.polling.Acts a t counted) :
    Balanced
      { members := g.members.set i ⟨t, member.counted ++ counted⟩
        account := g.account ++ a
        metrics := g.metrics.recordAll counted } := by
  have hmember := List.mem_of_getElem? here
  obtain ⟨bytes, packets, hs⟩ := h.received member hmember
  have hcounts := acts.counts hs
  have hclosed := hcounts.closed
  obtain ⟨htotal, hidle, hpings, hframed, herrors⟩ := g.metrics.recordAll_counters counted
  obtain ⟨hreads, hbytes⟩ := g.metrics.recordAll_sizes counted
  refine
    { received := fun other hother => ?_, closings := fun other hother => ?_, total := ?_
      active := fun hsize => ?_, bytes := ?_, reads := ?_, framed := ?_, idle := ?_, pings := ?_
      errors := ?_ }
  · obtain hold | rfl := List.mem_or_eq_of_mem_set hother
    · exact h.received other hold
    · exact ⟨_, _, acts.advances.received hs⟩
  · obtain hold | rfl := List.mem_or_eq_of_mem_set hother
    · exact h.closings other hold
    · rw [List.count_append, h.closings member hmember, Nat.add_comm, hclosed]
  · rw [htotal, h.total, hcounts.established, List.length_set]
    exact UInt64.add_zero _
  · rw [List.length_set] at hsize
    rw [Metrics.toNat_connectionsActive _ _ hcounts.established, h.active hsize,
      countP_open_set here hclosed]
  · rw [hbytes, h.bytes, hcounts.sizes, sum_ofNat_length, Account.flatten_blocks,
      Account.content_append, List.length_append, UInt64.ofNat_add]
  · rw [hreads, h.reads, hcounts.sizes, List.length_map, Account.blocks_append,
      List.length_append, UInt64.ofNat_add]
  · rw [hframed, h.framed, hcounts.framed, Account.delivered_append, List.length_append,
      UInt64.ofNat_add]
  · rw [hidle, h.idle, hcounts.idle, Account.reads_append, List.count_append, UInt64.ofNat_add]
  · rw [hpings, h.pings, hcounts.pings, Account.outcomes_append, List.count_append,
      UInt64.ofNat_add]
  · rw [herrors, h.errors, hcounts.errors]
    rfl

/-- Each operation keeps the balance. -/
theorem Balanced.operates (h : g.Balanced) (operates : g.Operates g') : g'.Balanced := by
  cases operates with
  | create config line => exact h.create config line
  | act here acts => exact h.act here acts

theorem balanced_of_reachable (h : Relation.ReflTransGen Operates {} g) : g.Balanced := by
  induction h with
  | refl => exact balanced_start
  | tail _ operates ih => exact ih.operates operates

/-- **The counters tell what was done.** Start from no pollers and counters at zero, make pollers
and let them do anything in any order, turn by turn or run by run. Then at any point

* as many connections were counted as there are pollers, and the gauge shows those that are open,
  as long as there are fewer pollers than a word can count;
* each poller has counted that it was closed once, if it is closed, and never if it is open;
* the counters show, up to wrapping, the bytes that were read and the reads that gave some, the
  packets that were delivered, the polls that read nothing in time, also where the keep-alive byte
  then failed, and the polls that gave `pingSent`; and no framing error was counted. -/
theorem metrics_of_reachable (h : Relation.ReflTransGen Operates {} g) :
    g.metrics.connectionsTotal = .ofNat g.members.length ∧
    (g.members.length < UInt64.size →
      g.metrics.connectionsTotal.toNat = g.members.length ∧
      g.metrics.connectionsActive.toNat = g.members.countP (!·.polling.poller.closed)) ∧
    (∀ member ∈ g.members, member.counted.count .connectionClosed =
      if member.polling.poller.closed then 1 else 0) ∧
    g.metrics.bytesReceived = .ofNat g.account.content.length ∧
    g.metrics.readsTotal = .ofNat g.account.blocks.length ∧
    g.metrics.packetsFramed = .ofNat g.account.delivered.length ∧
    g.metrics.idlePolls = .ofNat (g.account.reads.count .timedOut) ∧
    g.metrics.pingsSent = .ofNat (g.account.outcomes.count .pingSent) ∧
    g.metrics.framingErrors = 0 := by
  have hg := balanced_of_reachable h
  refine ⟨hg.total, fun hsize => ⟨?_, hg.active hsize⟩, fun member hmember => ?_, hg.bytes,
    hg.reads, hg.framed, hg.idle, hg.pings, hg.errors⟩
  · rw [hg.total, UInt64.toNat_ofNat_of_lt' hsize]
  · rw [hg.closings member hmember]
    cases member.polling.poller.closed <;> rfl

/-- One poller reads an event; another one meets a silent line. Its first keep-alive byte fails
and its second one is written, and a signal stops it while it writes the third. -/
theorem metrics_of_reachable_pair :
    ∃ g, Relation.ReflTransGen Operates {} g ∧
      g.metrics.connectionsTotal.toNat = 2 ∧ g.metrics.connectionsActive.toNat = 1 ∧
      g.metrics.bytesReceived = 3 ∧ g.metrics.readsTotal = 1 ∧ g.metrics.packetsFramed = 1 ∧
      g.metrics.idlePolls = 3 ∧ g.metrics.pingsSent = 1 := by
  have hmade := (Relation.ReflTransGen.single (Operates.create (g := {}) {}
    Polling.fastLine)).tail (.create { idlePollsBeforePing := 0 } { writing := .fails })
  have hread := hmade.tail (.act (i := 0) rfl .poll)
  have hfailed := hread.tail (.act (i := 1) rfl .poll)
  have hmended := hfailed.tail (.act (i := 1) rfl (.pause 0 .accepted))
  have hpinged := hmended.tail (.act (i := 1) rfl .poll)
  have hstopped := hpinged.tail (.act (i := 1) rfl
    (.stop (.writing rfl (Prod.ext rfl rfl) (Nat.le_refl _) (.inl rfl)) 200))
  obtain ⟨-, hopen, -, hbytes, hreads, hframed, hidle, hpings, -⟩ := metrics_of_reachable hstopped
  obtain ⟨htotal, hactive⟩ := hopen (by decide)
  exact ⟨_, hstopped, htotal, hactive, hbytes, hreads, hframed, hidle, hpings⟩

end Pollers

end TimingFeed
