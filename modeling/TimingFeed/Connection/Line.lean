import TimingFeed.Decoder

/-!
# A connection on a clock of its own

A line is one end of a connection whose other end is known in advance: what arrives
when, and what becomes of bytes written from now on. Its clock counts milliseconds and
moves only while somebody waits.

* `Line.read` waits for something to arrive, up to a deadline;
* `Line.ping` writes one byte.
-/

namespace TimingFeed

/-- What becomes of a written byte. -/
inductive Writing
  | accepted
  /-- Writing fails. -/
  | fails
  /-- No byte is taken. -/
  | takesNothing
  /-- The byte is taken, but sending it on fails. -/
  | flushFails
  deriving DecidableEq, Repr

/-- One end of a connection. -/
structure Line where
  /-- The clock, in milliseconds. -/
  now : Nat := 0
  /-- What will arrive, and from when on it can be read. -/
  arrivals : List (Nat × Arrival) := []
  /-- What becomes of bytes written from now on. -/
  writing : Writing := .accepted
  /-- All bytes written so far. -/
  written : List UInt8 := []
  deriving DecidableEq, Repr

/-- What a read gives. -/
inductive ReadOutcome
  /-- Nothing arrived in time. -/
  | timedOut
  /-- Some bytes; none of them means the end of the stream. -/
  | bytes (chunk : List UInt8)
  | failed (cause : String)
  deriving DecidableEq, Repr

namespace Line

/-- The clock as a moment. -/
def moment (l : Line) : Instant := .ofParts (.ofNat (l.now / 1000)) (l.now % 1000 * 1000000)

/-- When a wait up to a deadline ends: at the next arrival, or at the deadline. An
arrival exactly at the deadline still counts. -/
def wakeTime (l : Line) (deadline : Nat) : Nat :=
  match l.arrivals with
  | (since, _) :: _ => if since ≤ deadline then max l.now since else deadline
  | [] => deadline

/-- Take what can be read from one arrival, at most `size` bytes; the rest stays. -/
def takeFirst (size : Nat) : Arrival → ReadOutcome × Option Arrival
  | .bytes chunk =>
    if chunk.length ≤ size then (.bytes chunk, none)
    else (.bytes (chunk.take size), some (.bytes (chunk.drop size)))
  | .failure cause => (.failed cause, none)
  | .endOfStream => (.bytes [], none)

/-- Wait for something to arrive and read at most `size` bytes of it. -/
def read (l : Line) (wait size : Nat) : ReadOutcome × Line :=
  let deadline := l.now + wait
  match l.arrivals with
  | (since, a) :: later =>
    if since ≤ deadline then
      let (outcome, left) := takeFirst size a
      let arrivals := match left with
        | some b => (since, b) :: later
        | none => later
      (outcome, { l with now := max l.now since, arrivals })
    else (.timedOut, { l with now := deadline })
  | [] => (.timedOut, { l with now := deadline })

/-- Write one byte and send it on. Gives the text of the failure, if it fails. -/
def ping (l : Line) (byte : UInt8) : Option String × Line :=
  match l.writing with
  | .accepted => (none, { l with written := l.written ++ [byte] })
  | .fails => (some "broken", l)
  | .takesNothing => (some "write zero", l)
  | .flushFails => (some "flush failed", { l with written := l.written ++ [byte] })

/-- More polls than a line with something left to arrive can take, each waiting
`wait` at most. -/
def pollBound (l : Line) (wait : Nat) : Nat :=
  l.arrivals.foldl
    (fun n (since, a) =>
      let pieces := match a with
        | .bytes chunk => chunk.length
        | .failure _ | .endOfStream => 0
      n + pieces + 1 + (since / max wait 1 + 1))
    1

end Line

end TimingFeed
