import TimingFeed.Log.Line
import TimingFeed.Packet.Basic

/-!
# Framing a stream of bytes

The stream has no length prefixes: the header of each packet says where the next
one starts. A framer holds the bytes of the packet in progress and takes the
stream one byte at a time.

* `Framer.push` takes one byte and may complete a packet or find an error;
* `Framer.feed` takes a whole chunk, up to the first error, and `Framer.feedEach`
  several chunks, each with its receipt time;
* `Framer.deliver` hands the packets of a chunk over, one by one, and counts them
  as it goes (`Framer.handOver`);
* `Reading` is a chunk that is read on demand, one item at a time.

A header that announces more than the framer's limit poisons it: nothing is
known about the position of later packets, so every later chunk is refused until
`Framer.reset`.
-/

namespace TimingFeed

/-- A packet, or the reason why there is none. -/
abbrev FramedItem := Except FrameError Packet

/-- The framing state of one stream. -/
structure Framer where
  /-- The largest payload that is accepted. -/
  limit : Nat := maxPayload
  /-- The bytes of the packet in progress. -/
  held : List UInt8 := []
  /-- Whether an error has been found. -/
  poisoned : Bool := false
  deriving DecidableEq, Repr

namespace Framer

/-- A fresh framer for payloads of at most `limit` bytes, and at most those that
a header can announce. -/
def withLimit (limit : Nat) : Framer := { limit := min limit maxPayload }

/-- Forget the packet in progress and an earlier error. -/
def reset (f : Framer) : Framer := { limit := f.limit }

/-- The number of bytes held for the packet in progress. -/
def buffered (f : Framer) : Nat := f.held.length

/-- The length of the packet in progress, once its header is complete. -/
def expected? (f : Framer) : Option Nat :=
  if f.poisoned then none
  else match f.held with
    | first :: second :: _ => some (Header.frameLength ⟨first, second⟩)
    | _ => none

/-- Take one byte of a stream that is not poisoned. Two bytes are needed to know
how many follow; the byte that completes the announced payload completes the
packet. -/
def push (f : Framer) (time : Instant) (b : UInt8) : Framer × Option FramedItem :=
  match f.held ++ [b] with
  | first :: second :: payload =>
    let header : Header := ⟨first, second⟩
    if f.limit < header.payloadLength then
      ({ f with held := [first, second], poisoned := true },
        some (.error (.lengthExceedsMaximum header.car header.code header.payloadLength f.limit)))
    else if payload.length < header.payloadLength then
      ({ f with held := first :: second :: payload }, none)
    else ({ f with held := [] }, some (.ok (.assemble header payload time)))
  | held => ({ f with held }, none)

/-- Take bytes of a stream that is not poisoned, up to the first error. Gives the
items, the state and the bytes that were not read. -/
def pushAll (time : Instant) : Framer → List UInt8 → List FramedItem × Framer × List UInt8
  | f, [] => ([], f, [])
  | f, b :: rest =>
    match f.push time b with
    | (g, none) => pushAll time g rest
    | (g, some (.ok p)) =>
      let r := pushAll time g rest
      (.ok p :: r.1, r.2)
    | (g, some (.error e)) => ([.error e], g, rest)

/-- Take a chunk. A poisoned framer refuses it unread. -/
def feed (f : Framer) (time : Instant) (chunk : List UInt8) :
    List FramedItem × Framer × List UInt8 :=
  if f.poisoned then ([.error .poisoned], f, chunk) else pushAll time f chunk

/-- Take chunks in order, each with its receipt time. -/
def feedEach : Framer → List (Instant × List UInt8) → List FramedItem × Framer
  | f, [] => ([], f)
  | f, (time, chunk) :: rest =>
    let (items, g, _) := f.feed time chunk
    let (more, h) := feedEach g rest
    (items ++ more, h)

/-- Take bytes until an item is there. -/
def pushUntil (time : Instant) : Framer → List UInt8 → Option FramedItem × Framer × List UInt8
  | f, [] => (none, f, [])
  | f, b :: rest =>
    match f.push time b with
    | (g, none) => pushUntil time g rest
    | (g, some item) => (some item, g, rest)

/-- The next item of a chunk, with the state after it and the bytes that were not read. -/
def pull (f : Framer) (time : Instant) (chunk : List UInt8) :
    Option FramedItem × Framer × List UInt8 :=
  if f.poisoned then (some (.error .poisoned), f, chunk) else pushUntil time f chunk

end Framer

/-- The packets of a list of items. -/
def packetsOf (items : List FramedItem) : List Packet :=
  items.filterMap fun
    | .ok p => some p
    | .error _ => none

/-- The first error among the items. -/
def firstError? (items : List FramedItem) : Option FrameError :=
  items.findSome? fun
    | .ok _ => none
    | .error e => some e

/-- What came of handing the packets of a chunk over: the packets before the first error,
and their number or that error. -/
structure Delivery where
  framer : Framer
  packets : List Packet
  result : Except FrameError Nat

namespace Framer

/-- Hand packets over up to the first error, after `count` others. Gives the packets
and the count with them, or that error. -/
def handOver : Nat → List FramedItem → List Packet × Except FrameError Nat
  | count, [] => ([], .ok count)
  | count, .ok p :: items =>
    let (packets, result) := handOver (count + 1) items
    (p :: packets, result)
  | _, .error e :: _ => ([], .error e)

/-- Take a chunk and hand its packets over. -/
def deliver (f : Framer) (time : Instant) (chunk : List UInt8) : Delivery :=
  let (items, framer, _) := f.feed time chunk
  let (packets, result) := handOver 0 items
  { framer, packets, result }

end Framer

/-- A chunk that is read on demand. -/
structure Reading where
  framer : Framer
  time : Instant
  /-- The bytes of the chunk that were not read yet. -/
  unread : List UInt8
  /-- Whether the chunk has given its last item. -/
  ended : Bool := false
  deriving DecidableEq, Repr

namespace Reading

/-- Start to read a chunk. -/
def start (f : Framer) (time : Instant) (chunk : List UInt8) : Reading :=
  { framer := f, time, unread := chunk }

/-- The next item. An error is the last one. -/
def next (r : Reading) : Option FramedItem × Reading :=
  if r.ended then (none, r)
  else
    match r.framer.pull r.time r.unread with
    | (some (.ok p), f, rest) => (some (.ok p), { r with framer := f, unread := rest })
    | (item, f, rest) => (item, { r with framer := f, unread := rest, ended := true })

/-- At most `n` items, and whether the end was seen before there were `n`. -/
def nextUpTo : Nat → Reading → List FramedItem × Reading × Bool
  | 0, r => ([], r, false)
  | n + 1, r =>
    match r.next with
    | (none, s) => ([], s, true)
    | (some item, s) =>
      let t := nextUpTo n s
      (item :: t.1, t.2)

/-- The number of bytes that are lost when the rest of the chunk is not read. -/
def discarded (r : Reading) : Nat := if r.ended then 0 else r.unread.length

end Reading

/-- What a framer tells the log. -/
inductive FramerNotice
  /-- The stream can no longer be framed. -/
  | untrusted (cause : FrameError)
  /-- The end of a chunk was given up unread. -/
  | abandoned (bytes : Nat)
  deriving DecidableEq, Repr

namespace FramerNotice

/-- The log line of a notice. -/
def line : FramerNotice → LogLine
  | untrusted cause =>
    ⟨.warn, "Framing error, stream can no longer be trusted", [("error", cause.message)]⟩
  | abandoned bytes =>
    ⟨.warn, "Packet iterator dropped before draining its input",
      [("discarded", toString bytes)]⟩

/-- The notice of an error: it is told when it is found, not when it is met again. -/
def ofError? : FrameError → Option FramerNotice
  | .poisoned => none
  | e => some (.untrusted e)

/-- The notices of the errors among the items. -/
def ofItems (items : List FramedItem) : List FramerNotice :=
  items.filterMap fun
    | .ok _ => none
    | .error e => ofError? e

/-- The notice for a chunk that is given up, if it had unread bytes. -/
def ofAbandoned (r : Reading) : List FramerNotice :=
  if r.discarded = 0 then [] else [.abandoned r.discarded]

end FramerNotice

end TimingFeed
