import TimingFeed.Proofs.Connection.Polls
import TimingFeed.Proofs.Framer.Framing
import TimingFeed.Proofs.Result

/-!
# What a poller delivers

Bytes reach a framer through two splittings, the pieces that arrive and the buffer that they
are read into, with idle polls, keep-alive bytes and failures between them. Main statement:
`run_delivers`. None of this can be seen in the packets: they are the framing of the bytes.

* `Poller.Received` says that a poller has framed these bytes and delivered these packets;
* `received_poll` keeps it over one poll, `received_pollEach` over several;
* `received_turn` says the same of a turn of a run, and `received_runWithin` follows the turns to
  the failure or the end of the stream where the run stops (`Stops`).
-/

namespace TimingFeed

/-- A new poller and the line that it will poll. -/
def Polling.start (config : StreamConfig) (line : Line) : Polling := ⟨{ config }, line⟩

/-- A poller has read these bytes and delivered these packets. -/
structure Poller.Received (p : Poller) (bytes : List UInt8) (packets : List Packet) : Prop where
  framing : Framing bytes packets p.framer.held
  /-- No error was found, and the limit is the largest. -/
  framer : p.framer = { held := p.framer.held }

/-- A framer that holds the tail of a framing delivers the packets that a chunk completes. -/
theorem Framer.deliver_of_tail (time : Instant) {wire tail : List UInt8} {packets : List Packet}
    (h : Framing wire packets tail) (chunk : List UInt8) :
    ∃ later rest, Framing (wire ++ chunk) (packets ++ later) rest ∧
      ({ held := tail } : Framer).deliver time chunk =
        { framer := { held := rest }, packets := later, result := .ok later.length } := by
  obtain ⟨later, rest, hframing, hfeed⟩ := feed_of_tail time h chunk
  refine ⟨later, rest, hframing, ?_⟩
  rw [deliver_eq, hfeed, packetsOf_packets, firstError?_packets, Option.elim_none]

namespace Poller

/-- A new poller has received nothing. -/
theorem received_start (config : StreamConfig) (line : Line) :
    (Polling.start config line).poller.Received [] [] where
  framing := @framing_of_wellFormed [] (by simp)
  framer := rfl

variable {p : Poller} {bytes : List UInt8} {packets : List Packet}

/-- Only the framer of a poller counts. -/
theorem Received.of_framer {q : Poller} (h : p.Received bytes packets)
    (hq : q.framer = p.framer) : q.Received bytes packets :=
  ⟨hq ▸ h.framing, hq ▸ h.framer⟩

/-- Bytes that are read complete some packets, and no error is found. -/
theorem Received.onData (h : p.Received bytes packets) (line : Line) (chunk : List UInt8) :
    ∃ (framer : Framer) (later : List Packet),
      p.onData line chunk =
        { state := ⟨{ p with framer, idlePolls := 0 }, line⟩
          result := .ok (.data chunk.length later.length)
          delivered := later
          counted := .bytesRead (.ofNat chunk.length) :: later.map fun _ => .packetFramed } ∧
      ({ p with framer, idlePolls := 0 } : Poller).Received (bytes ++ chunk)
        (packets ++ later) := by
  obtain ⟨later, rest, hframing, hdeliver⟩ :=
    Framer.deliver_of_tail line.moment h.framing chunk
  rw [← h.framer] at hdeliver
  refine ⟨{ held := rest }, later, ?_, hframing, rfl⟩
  simp only [Poller.onData, hdeliver]

end Poller

namespace Polling

open Poller

variable {s : Polling} {bytes : List UInt8} {packets : List Packet}

/-- **One poll goes on with the framing.** It takes bytes from the front of what the line has
still to give, and finds no error in them. -/
theorem received_poll (h : s.poller.Received bytes packets) {polled : Polled PollOutcome}
    (hp : s.Polls polled) :
    (∃ read, read ++ polled.state.line.pending = s.line.pending ∧
      polled.state.poller.Received (bytes ++ read) (packets ++ polled.delivered)) ∧
    ∀ e, polled.result ≠ .error (.framing e) := by
  -- Only a poll that reads data touches the framer.
  have hquiet : ∀ t : Polling, t.poller.framer = s.poller.framer →
      t.line.pending = s.line.pending →
      ∃ read, read ++ t.line.pending = s.line.pending ∧
        t.poller.Received (bytes ++ read) (packets ++ []) := fun t hframer hpending =>
    ⟨[], hpending, by simpa using h.of_framer hframer⟩
  cases hp with
  | closed => exact ⟨hquiet _ rfl rfl, nofun⟩
  | idle _ reads | readFailed _ reads | ended _ reads =>
    exact ⟨hquiet _ rfl reads.pending.symm, nofun⟩
  | pinged _ reads _ ping | pingFailed _ reads _ ping =>
    have hping := Line.pending_congr (Line.frame_of_ping ping).1
    exact ⟨hquiet _ rfl (hping.trans reads.pending.symm), nofun⟩
  | @data line chunk _ reads _ =>
    obtain ⟨framer, later, hdata, hreceived⟩ := h.onData line chunk
    rw [hdata]
    exact ⟨⟨chunk, reads.pending.symm, hreceived⟩, nofun⟩

/-- Polls in a row go on with the framing, and none of them finds an error in it. -/
theorem received_pollEach (h : s.poller.Received bytes packets) (n : Nat) :
    (∃ read, read ++ (s.pollEach n).2.line.pending = s.line.pending ∧
      (s.pollEach n).2.poller.Received (bytes ++ read)
        (packets ++ (s.pollEach n).1.flatMap (·.delivered))) ∧
    ∀ polled ∈ (s.pollEach n).1, ∀ e, polled.result ≠ .error (.framing e) := by
  induction n generalizing s bytes packets with
  | zero => exact ⟨⟨[], rfl, by simpa using h⟩, by simp⟩
  | succ n ih =>
    obtain ⟨⟨first, hfirst, hreceived⟩, hok⟩ := received_poll h s.polls_poll
    obtain ⟨⟨later, hlater, hall⟩, hokLater⟩ := ih hreceived
    rw [pollEach_succ]
    refine ⟨⟨first ++ later, ?_, ?_⟩, List.forall_mem_cons.2 ⟨hok, hokLater⟩⟩
    · rw [List.append_assoc, hlater, hfirst]
    · rwa [List.flatMap_cons, ← List.append_assoc, ← List.append_assoc]

/-! ### Runs -/

/-- How a run over a line ends: at the end of the stream, with the number of packets, or at a
read that fails. -/
structure Stops (line : Line) (r : Polled Nat) : Prop where
  ended : ∀ total, r.result = .ok total →
    total = r.delivered.length ∧ r.state.poller.closed = true ∧
    ∃ since a, a.IsEnd ∧ line.ending = (since, a) :: r.state.line.arrivals
  failed : ∀ e, r.result = .error e →
    ∃ since cause, e = .io cause ∧ line.ending = (since, .failure cause) :: r.state.line.arrivals

theorem Stops.of_ended {line : Line} {t : Polling} {counted : List MetricEvent}
    (hclosed : t.poller.closed = true)
    (hend : ∃ since a, a.IsEnd ∧ line.ending = (since, a) :: t.line.arrivals) :
    Stops line { state := t, result := .ok 0, counted } where
  ended total htotal := by
    cases htotal
    exact ⟨rfl, hclosed, hend⟩
  failed e he := nomatch he

theorem Stops.of_failed {line : Line} {t : Polling} {counted : List MetricEvent} {since : Nat}
    {cause : String} (hend : line.ending = (since, .failure cause) :: t.line.arrivals) :
    Stops line { state := t, result := .error (.io cause), counted } where
  ended total htotal := nomatch htotal
  failed e he := by
    cases he
    exact ⟨since, cause, rfl, hend⟩

/-- Packets delivered before the rest of a run are counted with it. -/
theorem Stops.cons {line rest : Line} {later : Polled Nat} (h : Stops rest later)
    (hending : rest.ending = line.ending) (first : List Packet) (counted : List MetricEvent) :
    Stops line
      { state := later.state
        result := later.result.map (first.length + ·)
        delivered := first ++ later.delivered
        counted } where
  ended total htotal := by
    obtain ⟨count, hresult, hsum⟩ := map_eq_ok_iff.1 htotal
    obtain ⟨rfl, hclosed, hend⟩ := h.ended count hresult
    exact ⟨by rw [List.length_append, hsum], hclosed, hending ▸ hend⟩
  failed e he := by
    cases hresult : later.result with
    | error cause =>
      obtain rfl : cause = e := by simpa [hresult, Except.map] using he
      exact hending ▸ h.failed cause hresult
    | ok count => simp [hresult, Except.map] at he

/-- A turn of a run goes on with the bytes before the first failure or end, or it meets that. -/
theorem received_turn (h : s.poller.Received bytes packets) (hopen : s.poller.closed = false)
    (hpings : s.line.writing = .accepted) {polled : Polled PollOutcome} (hp : s.Polls polled) :
    (∃ outcome read, polled.result = .ok outcome ∧ outcome ≠ .closed ∧
      outcome.packets = polled.delivered.length ∧
      polled.state.poller.closed = false ∧ polled.state.line.writing = .accepted ∧
      polled.state.line.ending = s.line.ending ∧
      read ++ polled.state.line.opening = s.line.opening ∧
      polled.state.poller.Received (bytes ++ read) (packets ++ polled.delivered)) ∨
    s.line.opening = [] ∧ polled.delivered = [] ∧ polled.state.poller.Received bytes packets ∧
      ((polled.result = .ok .closed ∧ polled.state.poller.closed = true ∧
          ∃ since a, a.IsEnd ∧ s.line.ending = (since, a) :: polled.state.line.arrivals) ∨
        ∃ since cause, polled.result = .error (.io cause) ∧
          s.line.ending = (since, .failure cause) :: polled.state.line.arrivals) := by
  -- A turn without a read leaves what arrives and the framer as they are.
  have hquiet : ∀ (t : Polling), t.poller.framer = s.poller.framer →
      t.line.arrivals = s.line.arrivals →
      t.line.ending = s.line.ending ∧ [] ++ t.line.opening = s.line.opening ∧
        t.poller.Received (bytes ++ []) (packets ++ []) := fun t hframer harrivals =>
    ⟨(Line.opening_congr harrivals).2, (Line.opening_congr harrivals).1,
      by simpa using h.of_framer hframer⟩
  cases hp with
  | closed hclosed => simp [hopen] at hclosed
  | idle _ reads =>
    exact .inl ⟨.idle, [], rfl, nofun, rfl, hopen, reads.writing.1.trans hpings,
      hquiet _ rfl reads.arrivals_timedOut⟩
  | pinged _ reads _ ping =>
    obtain ⟨harrivals, hwriting, -⟩ := Line.frame_of_ping ping
    exact .inl ⟨.pingSent, [], rfl, nofun, rfl, hopen,
      hwriting.trans (reads.writing.1.trans hpings),
      hquiet _ rfl (harrivals.trans reads.arrivals_timedOut)⟩
  | pingFailed _ reads _ ping =>
    simp [Line.ping, reads.writing.1.trans hpings] at ping
  | readFailed _ reads =>
    obtain ⟨hopening, since, hending⟩ := reads.ending_failed
    exact .inr ⟨hopening, rfl, h, .inr ⟨since, _, rfl, hending⟩⟩
  | ended _ reads =>
    obtain ⟨hopening, hending⟩ := reads.ending_ended
    exact .inr ⟨hopening, rfl, h.of_framer rfl, .inl ⟨rfl, rfl, hending⟩⟩
  | @data line chunk _ reads hne =>
    obtain ⟨framer, later, hdata, hreceived⟩ := h.onData line chunk
    obtain ⟨hopening, hending⟩ := reads.opening_data hne
    rw [hdata]
    exact .inl ⟨_, chunk, rfl, nofun, rfl, hopen, reads.writing.1.trans hpings, hending,
      hopening.symm, hreceived⟩

/-- **A run goes on with the framing** up to the first failure or end, and stops there. -/
theorem received_runWithin (h : s.poller.Received bytes packets)
    (hopen : s.poller.closed = false) (hpings : s.line.writing = .accepted) {n : Nat}
    {r : Polled Nat} (hr : s.runWithin .never n = some r) :
    r.state.poller.Received (bytes ++ s.line.opening) (packets ++ r.delivered) ∧
      Stops s.line r := by
  induction n generalizing s bytes packets r with
  | zero => simp [runWithin] at hr
  | succ n ih =>
    obtain ⟨outcome, read, hresult, hne, hcount, hopen', hpings', hending, hopening, hreceived⟩ |
      ⟨hopening, hdelivered, hreceived, hstop⟩ := received_turn h hopen hpings s.polls_poll
    · rw [runWithin_of_ok rfl hresult hne, Option.map_eq_some_iff] at hr
      obtain ⟨later, hlater, rfl⟩ := hr
      obtain ⟨hall, hstops⟩ := ih hreceived hopen' hpings' hlater
      rw [hcount]
      refine ⟨?_, hstops.cons hending _ _⟩
      rwa [← hopening, ← List.append_assoc, ← List.append_assoc]
    · obtain ⟨hresult, hclosed, hend⟩ | ⟨since, cause, hresult, hend⟩ := hstop
      · rw [runWithin_of_closed rfl hresult] at hr
        cases hr
        rw [hopening, hdelivered, List.append_nil, List.append_nil]
        exact ⟨hreceived, .of_ended hclosed hend⟩
      · rw [runWithin_of_error rfl hresult] at hr
        cases hr
        rw [hopening, hdelivered, List.append_nil, List.append_nil]
        exact ⟨hreceived, .of_failed hend⟩

/-- **A poller delivers the framing of what it reads**, whatever the settings and however the
bytes arrive, as long as keep-alive bytes can be written.

* No poll finds a framing error.
* A run that ends well has delivered the packets of all bytes before the end, has counted them,
  is closed and holds the packet in progress. Any other such run over the same bytes delivers the
  same packets, apart from their receipt times.
* A run that fails has met a read that fails. It has delivered the packets of the bytes before
  that, and later polls go on with the bytes behind it: those read so far and those still to come
  are all bytes of the line, and the packets delivered so far are the framing of those read. -/
theorem run_delivers (config : StreamConfig) (line : Line) (hpings : line.writing = .accepted) :
    (∀ n, ∀ polled ∈ ((start config line).pollEach n).1, ∀ e,
      polled.result ≠ .error (.framing e)) ∧
    (∀ r total, (start config line).run = some r → r.result = .ok total →
      (∃ since a, a.IsEnd ∧ line.ending = (since, a) :: r.state.line.arrivals) ∧
      (∃ tail, Framing line.opening r.delivered tail ∧
        r.state.poller.framer.buffered = tail.length) ∧
      total = r.delivered.length ∧ r.state.poller.closed = true ∧
      ∀ config' line' r' total', line'.writing = .accepted → line'.opening = line.opening →
        (start config' line').run = some r' → r'.result = .ok total' →
        r'.delivered.map Packet.untimed = r.delivered.map Packet.untimed) ∧
    ∀ r e, (start config line).run = some r → r.result = .error e →
      (∃ since cause, e = .io cause ∧
        line.ending = (since, .failure cause) :: r.state.line.arrivals) ∧
      (∃ tail, Framing line.opening r.delivered tail) ∧
      ∀ n,
        (∃ read tail,
          line.opening ++ read ++ (r.state.pollEach n).2.line.pending = line.pending ∧
          Framing (line.opening ++ read)
            (r.delivered ++ (r.state.pollEach n).1.flatMap (·.delivered)) tail) ∧
        ∀ polled ∈ (r.state.pollEach n).1, ∀ e, polled.result ≠ .error (.framing e) := by
  have hrun : ∀ {config line r}, line.writing = .accepted → (start config line).run = some r →
      r.state.poller.Received line.opening r.delivered ∧ Stops line r :=
    fun hpings hr => received_runWithin (received_start _ _) rfl hpings hr
  refine ⟨fun n => (received_pollEach (received_start config line) n).2, ?_, ?_⟩
  · intro r total hr htotal
    obtain ⟨hreceived, hstops⟩ := hrun hpings hr
    obtain ⟨hcount, hclosed, hending⟩ := hstops.ended total htotal
    refine ⟨hending, ⟨_, hreceived.framing, rfl⟩, hcount, hclosed, ?_⟩
    intro config' line' r' total' hpings' hbytes hr' _
    have hother := (hrun hpings' hr').1.framing
    rw [hbytes] at hother
    exact (Framer.framing_unique hreceived.framing hother).1
  · intro r e hr he
    obtain ⟨hreceived, hstops⟩ := hrun hpings hr
    obtain ⟨since, cause, rfl, hending⟩ := hstops.failed e he
    refine ⟨⟨since, cause, rfl, hending⟩, ⟨_, hreceived.framing⟩, fun n => ?_⟩
    obtain ⟨⟨read, hread, hlater⟩, hok⟩ := received_pollEach hreceived n
    refine ⟨⟨read, _, ?_, hlater.framing⟩, hok⟩
    rw [List.append_assoc, hread, line.pending_eq, hending]
    rfl

/-- An event and half a value that arrive byte by byte, with silence between them. -/
def slowLine : Line where
  arrivals := [(50, .bytes [0x20]), (400, .bytes [0x00, 0x21]), (450, .endOfStream)]

/-- The same bytes at once. -/
def fastLine : Line where
  arrivals := [(0, .bytes [0x20, 0x00, 0x21]), (0, .endOfStream)]

/-- A read that fails inside an event. -/
def brokenLine : Line where
  arrivals := [(0, .bytes [0x20]), (0, .failure "reset"), (0, .bytes [0x00]), (0, .endOfStream)]

/-- An event that is read one byte at a time is delivered as it is from one piece; after a read
that failed inside one, the next poll goes on with it. -/
theorem run_delivers_event :
    (∃ slow fast,
      (start { readBufferSize := 0, idlePollsBeforePing := 0 } slowLine).run = some slow ∧
      (start {} fastLine).run = some fast ∧ slow.delivered.length = 1 ∧
      fast.delivered.map Packet.untimed = slow.delivered.map Packet.untimed) ∧
    ∃ broken read tail, (start {} brokenLine).run = some broken ∧
      [0x20] ++ read ++ (broken.state.pollEach 1).2.line.pending = [0x20, 0x00] ∧
      Framing ([0x20] ++ read)
        (broken.delivered ++ (broken.state.pollEach 1).1.flatMap (·.delivered)) tail := by
  obtain ⟨slow, hslow, hone⟩ := Option.map_eq_some_iff.1 (show
    (start { readBufferSize := 0, idlePollsBeforePing := 0 } slowLine).run.map (·.result) =
      some (.ok 1) from rfl)
  obtain ⟨fast, hfast, hsame⟩ := Option.map_eq_some_iff.1 (show
    (start {} fastLine).run.map (·.result) = some (.ok 1) from rfl)
  obtain ⟨broken, hbroken, hreset⟩ := Option.map_eq_some_iff.1 (show
    (start {} brokenLine).run.map (·.result) = some (.error (.io "reset")) from rfl)
  obtain ⟨-, -, hcount, -, hagree⟩ :=
    (run_delivers { readBufferSize := 0, idlePollsBeforePing := 0 } slowLine rfl).2.1 slow 1 hslow
      hone
  obtain ⟨-, -, hlater⟩ := (run_delivers {} brokenLine rfl).2.2 broken (.io "reset") hbroken hreset
  obtain ⟨⟨read, tail, hread, hframing⟩, -⟩ := hlater 1
  exact ⟨⟨slow, fast, hslow, hfast, hcount.symm, hagree {} fastLine fast 1 rfl rfl hfast hsame⟩,
    broken, read, tail, hbroken, hread, hframing⟩

end Polling

end TimingFeed
