import TimingFeed.Connection.Poller

/-!
# What a poll does

Everything that one read can do to a line and one poll to a poller. Later proofs take these
cases in place of the definitions.

* `Line.Reads` and `reads_read`: a read times out, takes bytes from the front of what arrives, or
  meets a failure or the end of the stream;
* `Line.pending`, `Line.opening`, `Line.ending`: the bytes that a line has still to give, those
  before the first failure or end, and what stands from there on;
* `Polling.reads` and `poll_meets`: a poll of an open poller is one read and what the poller
  makes of it (`Poller.Meets`); a closed one reads nothing;
* `Polling.Polls` and `polls_poll`: the same with the cases of a keep-alive byte; `Polls.frame`
  and `Polls.ending` say what a poll leaves as it is;
* `Polling.pollEach`: several polls in a row;
* `runWithin_of_stop` and its neighbours: the first turn of a run.
-/

namespace TimingFeed

/-- The bytes of an arrival. -/
def Arrival.content : Arrival → List UInt8
  | bytes chunk => chunk
  | failure _ | endOfStream => []

/-- Whether an arrival is data: not a failure, and not the end of the stream. -/
def Arrival.isData : Arrival → Bool
  | bytes (_ :: _) => true
  | bytes [] | failure _ | endOfStream => false

/-- An arrival that a read takes for the end of the stream. -/
def Arrival.IsEnd (a : Arrival) : Prop := a = .endOfStream ∨ a = .bytes []

theorem Arrival.isData_bytes {chunk : List UInt8} (h : chunk ≠ []) :
    (bytes chunk).isData = true := by
  cases chunk with
  | nil => exact absurd rfl h
  | cons => rfl

theorem Arrival.IsEnd.isData {a : Arrival} (h : a.IsEnd) : a.isData = false := by
  rcases h with rfl | rfl <;> rfl

theorem Arrival.IsEnd.content {a : Arrival} (h : a.IsEnd) : a.content = [] := by
  rcases h with rfl | rfl <;> rfl

/-- The bytes of a read. -/
def ReadOutcome.content : ReadOutcome → List UInt8
  | bytes chunk => chunk
  | timedOut | failed _ => []

namespace Line

/-! ### Reads -/

/-- All bytes that a line has still to give. -/
def pending (l : Line) : List UInt8 := l.arrivals.flatMap (·.2.content)

/-- The bytes before the first failure or end. -/
def opening (l : Line) : List UInt8 :=
  (l.arrivals.takeWhile (·.2.isData)).flatMap (·.2.content)

/-- What arrives from the first failure or end on. -/
def ending (l : Line) : List (Nat × Arrival) := l.arrivals.dropWhile (·.2.isData)

/-- What a read that waits so long can give, and the line after it. -/
inductive Reads (l : Line) (wait : Nat) : ReadOutcome → Line → Prop
  /-- The next arrival, if there is one, comes too late. -/
  | timedOut (late : ∀ first ∈ l.arrivals.head?, l.now + wait < first.1) :
      Reads l wait .timedOut { l with now := l.now + wait }
  | failed {since : Nat} {cause : String} {later : List (Nat × Arrival)}
      (arrivals : l.arrivals = (since, .failure cause) :: later) (inTime : since ≤ l.now + wait) :
      Reads l wait (.failed cause) { l with now := max l.now since, arrivals := later }
  | ended {since : Nat} {a : Arrival} {later : List (Nat × Arrival)}
      (arrivals : l.arrivals = (since, a) :: later) (inTime : since ≤ l.now + wait)
      (isEnd : a.IsEnd) :
      Reads l wait (.bytes []) { l with now := max l.now since, arrivals := later }
  /-- A whole piece is read. -/
  | whole {since : Nat} {chunk : List UInt8} {later : List (Nat × Arrival)}
      (arrivals : l.arrivals = (since, .bytes chunk) :: later) (inTime : since ≤ l.now + wait)
      (nonempty : chunk ≠ []) :
      Reads l wait (.bytes chunk) { l with now := max l.now since, arrivals := later }
  /-- The front of a piece is read; the rest can be read from the same time on. -/
  | part {since : Nat} {chunk rest : List UInt8} {later : List (Nat × Arrival)}
      (arrivals : l.arrivals = (since, .bytes (chunk ++ rest)) :: later)
      (inTime : since ≤ l.now + wait) (nonempty : chunk ≠ []) (remains : rest ≠ []) :
      Reads l wait (.bytes chunk)
        { l with now := max l.now since, arrivals := (since, .bytes rest) :: later }

/-- A read into a buffer that has room does one of these things. -/
theorem reads_read (l : Line) (wait : Nat) {size : Nat} (hsize : 0 < size) :
    l.Reads wait (l.read wait size).1 (l.read wait size).2 := by
  rcases l with ⟨now, _ | ⟨⟨since, a⟩, later⟩, writing, written⟩
  · exact .timedOut (by simp)
  · by_cases hs : since ≤ now + wait
    · cases a with
      | failure cause =>
        simp only [read, if_pos hs, takeFirst]
        exact .failed rfl hs
      | endOfStream =>
        simp only [read, if_pos hs, takeFirst]
        exact .ended rfl hs (.inl rfl)
      | bytes chunk =>
        by_cases hc : chunk.length ≤ size
        · simp only [read, if_pos hs, takeFirst, if_pos hc]
          by_cases hne : chunk = []
          · subst hne
            exact .ended rfl hs (.inr rfl)
          · exact .whole rfl hs hne
        · simp only [read, if_pos hs, takeFirst, if_neg hc]
          have htake : chunk.take size ≠ [] := by
            rw [← List.length_pos_iff, List.length_take]
            omega
          have hdrop : chunk.drop size ≠ [] := by
            rw [← List.length_pos_iff, List.length_drop]
            omega
          exact .part (by rw [List.take_append_drop]) hs htake hdrop
    · simp only [read, if_neg hs]
      exact .timedOut (by simpa using hs)

section Reads

variable {l m : Line} {wait : Nat}

/-- Reading writes nothing. -/
theorem Reads.writing {outcome : ReadOutcome} (h : l.Reads wait outcome m) :
    m.writing = l.writing ∧ m.written = l.written := by
  cases h <;> exact ⟨rfl, rfl⟩

theorem Reads.now_le {outcome : ReadOutcome} (h : l.Reads wait outcome m) : l.now ≤ m.now := by
  cases h with
  | timedOut => exact Nat.le_add_right _ _
  | failed | ended | whole | part => exact Nat.le_max_left _ _

/-- A read loses no byte and gives none twice. -/
theorem Reads.pending {outcome : ReadOutcome} (h : l.Reads wait outcome m) :
    l.pending = outcome.content ++ m.pending := by
  cases h with
  | timedOut => rfl
  | ended harrivals _ hend => simp [Line.pending, harrivals, hend.content, ReadOutcome.content]
  | failed harrivals | whole harrivals | part harrivals =>
    simp [Line.pending, harrivals, Arrival.content, ReadOutcome.content]

theorem Reads.arrivals_timedOut (h : l.Reads wait .timedOut m) : m.arrivals = l.arrivals := by
  cases h
  rfl

theorem opening_eq_nil {since : Nat} {a : Arrival} {later : List (Nat × Arrival)}
    (h : l.arrivals = (since, a) :: later) (ha : a.isData = false) :
    l.opening = [] ∧ l.ending = (since, a) :: later := by
  simp [opening, ending, h, ha]

/-- A read fails at the first failure. -/
theorem Reads.ending_failed {cause : String} (h : l.Reads wait (.failed cause) m) :
    l.opening = [] ∧ ∃ since, l.ending = (since, .failure cause) :: m.arrivals := by
  cases h with
  | failed harrivals =>
    obtain ⟨hopening, hending⟩ := opening_eq_nil harrivals rfl
    exact ⟨hopening, _, hending⟩

/-- A read without bytes meets the end of the stream. -/
theorem Reads.ending_ended (h : l.Reads wait (.bytes []) m) :
    l.opening = [] ∧ ∃ since a, a.IsEnd ∧ l.ending = (since, a) :: m.arrivals := by
  cases h with
  | ended harrivals _ hend =>
    obtain ⟨hopening, hending⟩ := opening_eq_nil harrivals hend.isData
    exact ⟨hopening, _, _, hend, hending⟩
  | whole _ _ hne | part _ _ hne => exact absurd rfl hne

/-- Bytes are read from the front; what the stream ends with stays. -/
theorem Reads.opening_data {chunk : List UInt8} (h : l.Reads wait (.bytes chunk) m)
    (hne : chunk ≠ []) : l.opening = chunk ++ m.opening ∧ m.ending = l.ending := by
  cases h with
  | ended => exact absurd rfl hne
  | whole harrivals =>
    simp [opening, ending, harrivals, Arrival.isData_bytes hne, Arrival.content]
  | @part _ _ rest _ harrivals _ _ hrest =>
    have hboth : chunk ++ rest ≠ [] := List.append_ne_nil_of_left_ne_nil hne rest
    simp [opening, ending, harrivals, Arrival.isData_bytes hboth, Arrival.isData_bytes hrest,
      Arrival.content]

end Reads

theorem pending_eq (l : Line) : l.pending = l.opening ++ l.ending.flatMap (·.2.content) := by
  rw [pending, opening, ending, ← List.flatMap_append, List.takeWhile_append_dropWhile]

/-- A keep-alive byte changes nothing about what arrives. -/
theorem frame_of_ping {l m : Line} {byte : UInt8} {result : Option String}
    (h : l.ping byte = (result, m)) :
    m.arrivals = l.arrivals ∧ m.writing = l.writing ∧ m.now = l.now := by
  unfold ping at h
  split at h <;> cases h <;> exact ⟨rfl, rfl, rfl⟩

theorem pending_congr {l m : Line} (h : m.arrivals = l.arrivals) : m.pending = l.pending := by
  rw [pending, pending, h]

theorem opening_congr {l m : Line} (h : m.arrivals = l.arrivals) :
    m.opening = l.opening ∧ m.ending = l.ending := by
  rw [opening, opening, ending, ending, h]
  exact ⟨rfl, rfl⟩

end Line

theorem Poller.bufferSize_pos (p : Poller) : 0 < p.bufferSize := Nat.le_max_right _ _

/-- Whatever is found in the bytes of a read, only the framer changes and the idle polls begin
again. -/
theorem Poller.state_onData (p : Poller) (line : Line) (chunk : List UInt8) :
    ∃ framer, (p.onData line chunk).state = ⟨{ p with framer, idlePolls := 0 }, line⟩ := by
  refine ⟨(p.framer.deliver line.moment chunk).framer, ?_⟩
  unfold onData
  dsimp only
  split <;> rfl

/-- What an open poller makes of a read that leaves this line. -/
inductive Poller.Meets (p : Poller) (line : Line) : ReadOutcome → Polled PollOutcome → Prop
  | timedOut : Meets p line .timedOut (p.onIdle line)
  | failed {cause : String} :
      Meets p line (.failed cause) { state := ⟨p, line⟩, result := .error (.io cause) }
  | ended :
      Meets p line (.bytes [])
        { state := ⟨{ p with closed := true }, line⟩
          result := .ok .closed
          counted := [.connectionClosed] }
  | data {chunk : List UInt8} (nonempty : chunk ≠ []) :
      Meets p line (.bytes chunk) (p.onData line chunk)

namespace Polling

/-! ### Polls -/

/-- The reads of a poll: one, unless the poller is closed. -/
def reads (s : Polling) : List ReadOutcome :=
  if s.poller.closed then [] else [(s.line.read s.poller.wait s.poller.bufferSize).1]

section Reads

variable {s : Polling}

/-- A poll of a closed poller does nothing. -/
theorem poll_of_closed (h : s.poller.closed = true) :
    s.poll = { state := s, result := .ok .closed } :=
  if_pos h

theorem reads_of_closed (h : s.poller.closed = true) : s.reads = [] := if_pos h

/-- A poll of an open poller is one read and what the poller makes of it. -/
theorem poll_meets (h : s.poller.closed = false) :
    ∃ outcome line, s.reads = [outcome] ∧ s.line.Reads s.poller.wait outcome line ∧
      s.poller.Meets line outcome s.poll := by
  refine ⟨_, _, if_neg (by simp [h]), s.line.reads_read s.poller.wait s.poller.bufferSize_pos, ?_⟩
  rw [poll, if_neg (by simp [h])]
  rcases s.line.read s.poller.wait s.poller.bufferSize with ⟨_ | (_ | ⟨b, chunk⟩) | cause, line⟩
  · exact .timedOut
  · simp only [Poller.close, h]
    exact .ended
  · exact .data (List.cons_ne_nil b chunk)
  · exact .failed

end Reads

/-- What a poll can come to. -/
inductive Polls (s : Polling) : Polled PollOutcome → Prop
  /-- A closed poller does nothing. -/
  | closed (isClosed : s.poller.closed = true) : Polls s { state := s, result := .ok .closed }
  | idle {line : Line} (isOpen : s.poller.closed = false)
      (reads : s.line.Reads s.poller.wait .timedOut line)
      (few : s.poller.idlePolls < s.poller.threshold) :
      Polls s
        { state := ⟨{ s.poller with idlePolls := s.poller.idlePolls + 1 }, line⟩
          result := .ok .idle
          counted := [.idlePoll] }
  | pinged {line written : Line} (isOpen : s.poller.closed = false)
      (reads : s.line.Reads s.poller.wait .timedOut line)
      (many : s.poller.threshold ≤ s.poller.idlePolls)
      (ping : line.ping s.poller.config.pingByte = (none, written)) :
      Polls s
        { state := ⟨{ s.poller with idlePolls := 0 }, written⟩
          result := .ok .pingSent
          counted := [.idlePoll, .pingSent] }
  | pingFailed {line written : Line} {cause : String} (isOpen : s.poller.closed = false)
      (reads : s.line.Reads s.poller.wait .timedOut line)
      (many : s.poller.threshold ≤ s.poller.idlePolls)
      (ping : line.ping s.poller.config.pingByte = (some cause, written)) :
      Polls s
        { state := ⟨s.poller, written⟩, result := .error (.io cause), counted := [.idlePoll] }
  | readFailed {line : Line} {cause : String} (isOpen : s.poller.closed = false)
      (reads : s.line.Reads s.poller.wait (.failed cause) line) :
      Polls s { state := ⟨s.poller, line⟩, result := .error (.io cause) }
  | ended {line : Line} (isOpen : s.poller.closed = false)
      (reads : s.line.Reads s.poller.wait (.bytes []) line) :
      Polls s
        { state := ⟨{ s.poller with closed := true }, line⟩
          result := .ok .closed
          counted := [.connectionClosed] }
  | data {line : Line} {chunk : List UInt8} (isOpen : s.poller.closed = false)
      (reads : s.line.Reads s.poller.wait (.bytes chunk) line) (nonempty : chunk ≠ []) :
      Polls s (s.poller.onData line chunk)

/-- A poll comes to one of these things. -/
theorem polls_poll (s : Polling) : s.Polls s.poll := by
  cases hclosed : s.poller.closed with
  | true =>
    rw [poll_of_closed hclosed]
    exact .closed hclosed
  | false =>
    obtain ⟨outcome, line, -, hreads, hmeets⟩ := poll_meets hclosed
    generalize s.poll = polled at hmeets ⊢
    cases hmeets with
    | timedOut =>
      unfold Poller.onIdle
      split
      · next hfew => exact .idle hclosed hreads hfew
      · next hmany =>
        split
        · next hping => exact .pingFailed hclosed hreads (Nat.not_lt.1 hmany) hping
        · next hping => exact .pinged hclosed hreads (Nat.not_lt.1 hmany) hping
    | failed => exact .readFailed hclosed hreads
    | ended => exact .ended hclosed hreads
    | data nonempty => exact .data hclosed hreads nonempty

/-- A poll keeps the settings and what becomes of written bytes, and the clock does not run
backwards. -/
theorem Polls.frame {s : Polling} {polled : Polled PollOutcome} (h : s.Polls polled) :
    polled.state.poller.config = s.poller.config ∧
      polled.state.line.writing = s.line.writing ∧ s.line.now ≤ polled.state.line.now := by
  cases h with
  | closed => exact ⟨rfl, rfl, Nat.le_refl _⟩
  | idle _ reads => exact ⟨rfl, reads.writing.1, reads.now_le⟩
  | pinged _ reads _ ping | pingFailed _ reads _ ping =>
    obtain ⟨-, hwriting, hnow⟩ := Line.frame_of_ping ping
    exact ⟨rfl, hwriting.trans reads.writing.1, hnow ▸ reads.now_le⟩
  | readFailed _ reads | ended _ reads => exact ⟨rfl, reads.writing.1, reads.now_le⟩
  | @data line chunk _ reads =>
    obtain ⟨framer, hstate⟩ := s.poller.state_onData line chunk
    rw [hstate]
    exact ⟨rfl, reads.writing.1, reads.now_le⟩

theorem Polls.wait {s : Polling} {polled : Polled PollOutcome} (h : s.Polls polled) :
    polled.state.poller.wait = s.poller.wait := by
  rw [Poller.wait, h.frame.1, Poller.wait]

theorem Polls.threshold {s : Polling} {polled : Polled PollOutcome} (h : s.Polls polled) :
    polled.state.poller.threshold = s.poller.threshold := by
  rw [Poller.threshold, h.frame.1, Poller.threshold]

/-- A poll after which a run goes on has timed out or has read bytes. -/
theorem Polls.line_of_ok {s : Polling} {polled : Polled PollOutcome} (h : s.Polls polled)
    {outcome : PollOutcome} (hok : polled.result = .ok outcome) (hne : outcome ≠ .closed) :
    (∃ line, s.line.Reads s.poller.wait .timedOut line ∧
        polled.state.line.arrivals = line.arrivals ∧ polled.state.line.now = line.now) ∨
      ∃ chunk, chunk ≠ [] ∧ s.line.Reads s.poller.wait (.bytes chunk) polled.state.line := by
  cases h with
  | closed | ended =>
    cases hok
    exact absurd rfl hne
  | pingFailed | readFailed => cases hok
  | idle _ reads => exact .inl ⟨_, reads, rfl, rfl⟩
  | pinged _ reads _ ping =>
    obtain ⟨harrivals, -, hnow⟩ := Line.frame_of_ping ping
    exact .inl ⟨_, reads, harrivals, hnow⟩
  | @data line chunk _ reads nonempty =>
    obtain ⟨framer, hstate⟩ := s.poller.state_onData line chunk
    rw [hstate]
    exact .inr ⟨chunk, nonempty, reads⟩

/-- Such a poll leaves what the stream ends with. -/
theorem Polls.ending {s : Polling} {polled : Polled PollOutcome} (h : s.Polls polled)
    {outcome : PollOutcome} (hok : polled.result = .ok outcome) (hne : outcome ≠ .closed) :
    polled.state.line.ending = s.line.ending := by
  obtain ⟨line, reads, harrivals, -⟩ | ⟨chunk, hchunk, reads⟩ := h.line_of_ok hok hne
  · exact (Line.opening_congr (harrivals.trans reads.arrivals_timedOut)).2
  · exact (reads.opening_data hchunk).2

/-- So many polls in a row: what came of each of them and the state after them. -/
def pollEach : Nat → Polling → List (Polled PollOutcome) × Polling
  | 0, s => ([], s)
  | n + 1, s =>
    let first := s.poll
    let (later, t) := pollEach n first.state
    (first :: later, t)

@[simp] theorem pollEach_zero (s : Polling) : s.pollEach 0 = ([], s) := rfl

theorem pollEach_succ (n : Nat) (s : Polling) :
    s.pollEach (n + 1) = (s.poll :: (s.poll.state.pollEach n).1, (s.poll.state.pollEach n).2) :=
  rfl

/-! ### Turns of a run -/

section Turns

variable {signal : Shutdown} {s : Polling} {n : Nat}

theorem runWithin_of_stop {time : Nat} (h : signal.stops? s = some time) :
    s.runWithin signal (n + 1) = some (s.shutDown time) := by
  simp [runWithin, h]

theorem runWithin_of_error {e : FeedError} (hgo : signal.stops? s = none)
    (h : s.poll.result = .error e) :
    s.runWithin signal (n + 1) =
      some { state := s.poll.state, result := .error e
             delivered := s.poll.delivered, counted := s.poll.counted } := by
  simp [runWithin, hgo, h]

theorem runWithin_of_closed (hgo : signal.stops? s = none) (h : s.poll.result = .ok .closed) :
    s.runWithin signal (n + 1) =
      some { state := s.poll.state, result := .ok 0
             delivered := s.poll.delivered, counted := s.poll.counted } := by
  simp [runWithin, hgo, h]

theorem runWithin_of_ok {outcome : PollOutcome} (hgo : signal.stops? s = none)
    (h : s.poll.result = .ok outcome) (hne : outcome ≠ .closed) :
    s.runWithin signal (n + 1) =
      (runWithin signal n s.poll.state).map fun later =>
        { state := later.state
          result := later.result.map (outcome.packets + ·)
          delivered := s.poll.delivered ++ later.delivered
          counted := s.poll.counted ++ later.counted } := by
  cases outcome <;> simp_all [runWithin]

end Turns

end Polling

end TimingFeed
