import TimingFeed.Decoder

/-!
# Framing in an array of fixed size

No frame is longer than `maxFrame` bytes, so the packet in progress is kept in an array of that
size. The array is never cleared: a count says how many of its bytes belong to the packet, and
what stands behind them was left there by earlier packets.

* `FrameBuffer.take` copies bytes into the array, `FrameBuffer.announced` reads the length of the
  packet from its header, and `FrameBuffer.complete` reads the packet;
* `FrameBuffer.pull` puts them together to the next item of a chunk, `FrameBuffer.decode` and
  `FrameBuffer.decodeEnd` to the next packet of a source buffer;
* `BufferReading` is a chunk that is read on demand, and `FrameBuffer.feed` takes a whole one.

Lengths are differences of numbers that are not negative, and bytes are copied to and from places
in the array. Where a difference would be negative, or a place outside of the array, there is a
`Fault` and nothing else.
-/

namespace TimingFeed

/-- The number of bytes in the longest frame. -/
abbrev maxFrame : Nat := headerLength + maxPayload

/-- Why a step cannot be carried out. -/
inductive Fault
  /-- More is taken away from a number than it holds. -/
  | underflow
  /-- A place outside of the array is read or written. -/
  | outOfBounds
  deriving DecidableEq, Repr

/-- What a step gives, if it can be carried out. -/
abbrev Guarded := Except Fault

/-- What is left of a number. -/
def difference (a b : Nat) : Guarded Nat := if b ≤ a then .ok (a - b) else .error .underflow

/-- The length of a whole frame with this header, in a given encoding. -/
def LengthEncoding.frameLength (h : Header) : LengthEncoding → Nat
  | special => headerLength
  | short => if h.isShortEmpty then headerLength else h.second.toNat / 16 + headerLength
  | long => h.upperBits.toNat + headerLength
  | fixed n => n

/-- The length of the frame, unless the category has no encoding or the frame would be longer
than any. -/
def Header.checkedFrameLength (h : Header) : Except FrameError Nat := do
  let encoding ← LengthEncoding.lookup h.car h.code
  let length := encoding.frameLength h
  if maxFrame < length then
    throw (.lengthExceedsMaximum h.car h.code (length - headerLength) maxPayload)
  return length

/-- The inline data value of the header, unless the category has no encoding. -/
def Header.checkedData (h : Header) : Except FrameError UInt8 := do
  match ← LengthEncoding.lookup h.car h.code with
  | .special => return h.upperBits
  | .short => return h.shortData
  | .long | .fixed _ => return 0

/-- Read a complete frame, with every check that can be made of it. -/
def Packet.ofCheckedFrame (frame : List UInt8) (time : Instant) : Except FrameError Packet :=
  match frame with
  | first :: second :: payload => do
    let header : Header := ⟨first, second⟩
    let data ← header.checkedData
    let expected ← header.checkedFrameLength
    if frame.length ≠ expected then throw (.lengthMismatch expected frame.length)
    return ⟨header, data, time, payload⟩
  | short => .error (.lengthMismatch headerLength short.length)

/-- The framing state of one stream. -/
structure FrameBuffer where
  /-- The bytes of the packet in progress, followed by what earlier packets left. -/
  bytes : Vector UInt8 maxFrame := .replicate maxFrame 0
  /-- The number of bytes of the packet in progress. -/
  filled : Nat := 0
  /-- The length of the packet in progress, once it has been read from its header. -/
  expected : Option Nat := none
  /-- The largest payload that is accepted. -/
  limit : Nat := maxPayload
  /-- Whether an error has been found. -/
  poisoned : Bool := false
  deriving DecidableEq, Repr

namespace FrameBuffer

/-- A fresh buffer for payloads of at most `limit` bytes, and at most those that a header can
announce. -/
def withLimit (limit : Nat) : FrameBuffer := { limit := min limit maxPayload }

/-- Forget the packet in progress and an earlier error. The array stays as it is. -/
def reset (b : FrameBuffer) : FrameBuffer :=
  { b with filled := 0, expected := none, poisoned := false }

/-- The array with some bytes written from a place on. -/
def overwrite {n : Nat} (bytes : Vector UInt8 n) (start : Nat) (new : List UInt8) :
    Vector UInt8 n :=
  .ofFn fun i => if start ≤ i then new.getD (i - start) bytes[i] else bytes[i]

/-- Copy at most `wanted` bytes of a chunk behind the packet in progress, and give the bytes that
are left of the chunk. -/
def take (b : FrameBuffer) (wanted : Nat) (chunk : List UInt8) :
    Guarded (FrameBuffer × List UInt8) :=
  let head := chunk.take wanted
  if b.filled + head.length ≤ maxFrame then
    .ok ({ b with bytes := overwrite b.bytes b.filled head, filled := b.filled + head.length },
      chunk.drop wanted)
  else .error .outOfBounds

/-- Two bytes are needed to know how many follow. -/
def takeHeader (b : FrameBuffer) (chunk : List UInt8) : Guarded (FrameBuffer × List UInt8) :=
  if b.filled < headerLength then do b.take (← difference headerLength b.filled) chunk
  else .ok (b, chunk)

/-- The header of the packet in progress. -/
def header (b : FrameBuffer) : Header := ⟨b.bytes[0], b.bytes[1]⟩

/-- The length that the header announces, if its payload is accepted. -/
def announced (b : FrameBuffer) : Guarded (Except FrameError Nat) :=
  match b.header.checkedFrameLength with
  | .error e => .ok (.error e)
  | .ok length => do
    let payload ← difference length headerLength
    if b.limit < payload then
      return .error (.lengthExceedsMaximum b.header.car b.header.code payload b.limit)
    else return .ok length

/-- Find out the length of the packet in progress, unless it is known. A header that is not
accepted poisons the buffer. -/
def settle (b : FrameBuffer) : Guarded (Except FrameError Nat × FrameBuffer) :=
  match b.expected with
  | some length => .ok (.ok length, b)
  | none => do
    match ← b.announced with
    | .ok length => return (.ok length, { b with expected := some length })
    | .error e => return (.error e, { b with poisoned := true })

/-- The first bytes of the array. -/
def frame (b : FrameBuffer) (length : Nat) : Guarded (List UInt8) :=
  if length ≤ maxFrame then .ok (b.bytes.toList.take length) else .error .outOfBounds

/-- Take bytes until the packet has its length, and read it then. -/
def complete (b : FrameBuffer) (time : Instant) (length : Nat) (chunk : List UInt8) :
    Guarded (Option FramedItem × FrameBuffer × List UInt8) := do
  let (b, rest) ← b.take (← difference length b.filled) chunk
  if b.filled < length then return (none, b, rest)
  else
    match Packet.ofCheckedFrame (← b.frame length) time with
    | .ok p => return (some (.ok p), { b with filled := 0, expected := none }, rest)
    | .error e => return (some (.error e), b, rest)

/-- The next item of a chunk, with the state after it and the bytes that were not read. -/
def pull (b : FrameBuffer) (time : Instant) (chunk : List UInt8) :
    Guarded (Option FramedItem × FrameBuffer × List UInt8) :=
  if b.poisoned then .ok (some (.error .poisoned), b, chunk)
  else do
    let (b, rest) ← b.takeHeader chunk
    if b.filled < headerLength then return (none, b, rest)
    else
      match ← b.settle with
      | (.ok length, b) => b.complete time length rest
      | (.error e, b) => return (some (.error e), b, rest)

/-- The next packet of a source buffer, with what the source buffer holds after it. Bytes leave
it only if no error is found. -/
def decode (b : FrameBuffer) (time : Instant) (source : List UInt8) :
    Guarded (Decoded × FrameBuffer × List UInt8) := do
  match ← b.pull time source with
  | (some (.ok p), b, rest) => return (.ok (some p), b, rest)
  | (some (.error e), b, _) => return (.error (.framing e), b, source)
  | (none, b, rest) => return (.ok none, b, rest)

/-- The next packet when no more bytes can arrive: a packet in progress is an error. -/
def decodeEnd (b : FrameBuffer) (time : Instant) (source : List UInt8) :
    Guarded (Decoded × FrameBuffer × List UInt8) := do
  match ← b.decode time source with
  | (.ok none, b, rest) =>
    return (if b.filled = 0 then .ok none else .error .connectionClosed, b, rest)
  | r => return r

end FrameBuffer

/-- A chunk that is read on demand. -/
structure BufferReading where
  buffer : FrameBuffer
  time : Instant
  /-- The bytes of the chunk that were not read yet. -/
  unread : List UInt8
  /-- Whether the chunk has given its last item. -/
  ended : Bool := false
  deriving DecidableEq, Repr

namespace BufferReading

/-- Start to read a chunk. -/
def start (b : FrameBuffer) (time : Instant) (chunk : List UInt8) : BufferReading :=
  { buffer := b, time, unread := chunk }

/-- The next item. An error is the last one. -/
def next (r : BufferReading) : Guarded (Option FramedItem × BufferReading) :=
  if r.ended then .ok (none, r)
  else do
    match ← r.buffer.pull r.time r.unread with
    | (some (.ok p), b, rest) => return (some (.ok p), { r with buffer := b, unread := rest })
    | (item, b, rest) => return (item, { r with buffer := b, unread := rest, ended := true })

/-- At most `n` items, and whether the end was seen before there were `n`. -/
def nextUpTo : Nat → BufferReading → Guarded (List FramedItem × BufferReading × Bool)
  | 0, r => .ok ([], r, false)
  | n + 1, r => do
    match ← r.next with
    | (none, s) => return ([], s, true)
    | (some item, s) =>
      let t ← nextUpTo n s
      return (item :: t.1, t.2)

/-- The number of bytes that are lost when the rest of the chunk is not read. -/
def discarded (r : BufferReading) : Nat := if r.ended then 0 else r.unread.length

end BufferReading

/-- Take a chunk to its end. There is an item at most for each byte, or the one refusal of a
poisoned buffer, and then a call that tells the end. -/
def FrameBuffer.feed (b : FrameBuffer) (time : Instant) (chunk : List UInt8) :
    Guarded (List FramedItem × FrameBuffer × List UInt8) := do
  let (items, r, _) ← (BufferReading.start b time chunk).nextUpTo (chunk.length + 2)
  return (items, r.buffer, r.unread)

end TimingFeed
