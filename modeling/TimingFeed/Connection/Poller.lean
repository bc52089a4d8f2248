import TimingFeed.Config.Basic
import TimingFeed.Connection.Line
import TimingFeed.Metrics

/-!
# Polling a connection

A poller reads a connection in polls of bounded length, frames what arrives and
keeps an idle connection alive: after so many empty polls in a row it writes one
keep-alive byte.

* `Poller.poll` is one poll; `Polled` says what came of it, which packets were
  delivered and what is counted;
* `Poller.run` polls until the stream ends or an error is found;
* `Poller.runUntil` also stops at a shutdown signal. A signal is seen between polls
  and while a poll waits; it never cuts off bytes that were read.
-/

namespace TimingFeed

/-- What a successful poll comes to. -/
inductive PollOutcome
  /-- Bytes were read and completed so many packets. -/
  | data (bytes packets : Nat)
  /-- Nothing arrived. -/
  | idle
  /-- Nothing arrived, and a keep-alive byte was written. -/
  | pingSent
  /-- The stream has ended. -/
  | closed
  deriving DecidableEq, Repr

/-- The state of a poller. -/
structure Poller where
  config : StreamConfig := {}
  framer : Framer := {}
  /-- Empty polls since the last data or keep-alive byte. -/
  idlePolls : Nat := 0
  closed : Bool := false
  deriving DecidableEq, Repr

/-- A poller and the line that it polls. -/
structure Polling where
  poller : Poller
  line : Line
  deriving DecidableEq, Repr

/-- What came of some polls: the state after them, the result, the packets delivered
in order and what is counted. -/
structure Polled (α : Type) where
  state : Polling
  result : Except FeedError α
  delivered : List Packet := []
  counted : List MetricEvent := []
  deriving Repr

namespace Poller

/-- The number of bytes that one read can give, at least one. -/
def bufferSize (p : Poller) : Nat := max p.config.readBufferSize.toNat 1

/-- The longest wait of a poll, in milliseconds. The clock shows whole ones, and a poll
is over when it shows that the poll interval has passed. -/
def wait (p : Poller) : Nat := p.config.pollInterval.millisUp

/-- How many empty polls pass before a keep-alive byte. -/
def threshold (p : Poller) : Nat := p.config.idlePollsBeforePing.toNat

/-- What is counted when a poller is made. -/
def startMetrics : List MetricEvent := [.connectionEstablished]

/-- Close the poller; only the first time counts. -/
def close (p : Poller) : Poller × List MetricEvent :=
  if p.closed then (p, []) else ({ p with closed := true }, [.connectionClosed])

/-- After an empty poll: wait on, or write a keep-alive byte. -/
def onIdle (p : Poller) (line : Line) : Polled PollOutcome :=
  if p.idlePolls < p.threshold then
    { state := ⟨{ p with idlePolls := p.idlePolls + 1 }, line⟩
      result := .ok .idle
      counted := [.idlePoll] }
  else
    match line.ping p.config.pingByte with
    | (some cause, line) =>
      { state := ⟨p, line⟩, result := .error (.io cause), counted := [.idlePoll] }
    | (none, line) =>
      { state := ⟨{ p with idlePolls := 0 }, line⟩
        result := .ok .pingSent
        counted := [.idlePoll, .pingSent] }

/-- Frame the bytes of a read. Packets before an error are delivered. -/
def onData (p : Poller) (line : Line) (chunk : List UInt8) : Polled PollOutcome :=
  let d := p.framer.deliver line.moment chunk
  let read := .bytesRead (.ofNat chunk.length) :: d.packets.map fun _ => .packetFramed
  let state : Polling := ⟨{ p with framer := d.framer, idlePolls := 0 }, line⟩
  match d.result with
  | .ok packets =>
    { state, result := .ok (.data chunk.length packets)
      delivered := d.packets, counted := read }
  | .error e =>
    { state, result := .error (.framing e)
      delivered := d.packets, counted := read ++ [.framingError] }

end Poller

namespace Polling

/-- Wait up to one poll interval for data and deliver the packets that it completes. -/
def poll (s : Polling) : Polled PollOutcome :=
  if s.poller.closed then { state := s, result := .ok .closed }
  else
    match s.line.read s.poller.wait s.poller.bufferSize with
    | (.timedOut, line) => s.poller.onIdle line
    | (.failed cause, line) => { state := ⟨s.poller, line⟩, result := .error (.io cause) }
    | (.bytes [], line) =>
      let (poller, counted) := s.poller.close
      { state := ⟨poller, line⟩, result := .ok .closed, counted }
    | (.bytes chunk, line) => s.poller.onData line chunk

/-- When a poll that begins now is over. -/
def pollEnd (s : Polling) : Nat := s.line.wakeTime (s.line.now + s.poller.wait)

end Polling

/-- When a shutdown signal is sent. -/
inductive Shutdown
  /-- It was sent before. -/
  | queued
  /-- It is sent when the clock shows this time. -/
  | scheduled (time : Nat)
  | never
  deriving DecidableEq, Repr

/-- When a signal stops a poll that would begin now, if it does: at once, or while the
poll waits. A poll that ends at the time of the signal still takes place. -/
def Shutdown.stops? (signal : Shutdown) (s : Polling) : Option Nat :=
  match signal with
  | queued => some s.line.now
  | scheduled time => if ¬s.poller.closed ∧ time < s.pollEnd then some time else none
  | never => none

/-- The packets that an outcome counts. -/
def PollOutcome.packets : PollOutcome → Nat
  | data _ packets => packets
  | idle | pingSent | closed => 0

namespace Polling

/-- Stop at a signal. -/
def shutDown (s : Polling) (time : Nat) : Polled Nat :=
  let (poller, counted) := s.poller.close
  { state := ⟨poller, { s.line with now := time }⟩, result := .ok 0, counted }

/-- Poll until the stream ends, an error is found or a signal comes, in at most `n`
turns. The result is the number of packets delivered. It is a number without a bound; a
64-bit word holds it as long as it is below `2 ^ 64`. -/
def runWithin (signal : Shutdown) : Nat → Polling → Option (Polled Nat)
  | 0, _ => none
  | n + 1, s =>
    match signal.stops? s with
    | some time => some (s.shutDown time)
    | none =>
      let first := s.poll
      match first.result with
      | .error e =>
        some { state := first.state, result := .error e
               delivered := first.delivered, counted := first.counted }
      | .ok .closed =>
        some { state := first.state, result := .ok 0
               delivered := first.delivered, counted := first.counted }
      | .ok outcome =>
        (runWithin signal n first.state).map fun later =>
          { state := later.state
            result := later.result.map (outcome.packets + ·)
            delivered := first.delivered ++ later.delivered
            counted := first.counted ++ later.counted }

/-- More turns than a run takes that ends at all. -/
def turnBound (signal : Shutdown) (s : Polling) : Nat :=
  let wait := s.poller.wait
  let untilSignal := match signal with
    | .scheduled time => time / max wait 1 + 1
    | .queued | .never => 0
  let untilFailure := match s.line.writing with
    | .accepted => 0
    | .fails | .takesNothing | .flushFails => s.poller.threshold + 1
  s.line.pollBound wait + untilSignal + untilFailure + 1

/-- Poll until the stream ends, an error is found or a signal comes; nothing, if none
of these ever happens. -/
def runUntil (signal : Shutdown) (s : Polling) : Option (Polled Nat) :=
  runWithin signal (s.turnBound signal) s

/-- Poll until the stream ends or an error is found. -/
def run (s : Polling) : Option (Polled Nat) := s.runUntil .never

end Polling

end TimingFeed
