import TimingFeed.Error
import TimingFeed.Framer

/-!
# Decoding from a buffer

A decoder keeps the bytes that arrived and were not framed yet, beside the framer
with the packet in progress. A byte is in one of the two, never in both, as long as
no error is found.

* `Decoder.decode` takes the next packet out of the buffer, `Decoder.decodeEnd` does
  so when no more bytes can arrive;
* `Decoder.recording` reads a source that can only be read, such as a recorded
  session.
-/

namespace TimingFeed

/-- A framer and the bytes that it has not seen. -/
structure Decoder where
  framer : Framer := {}
  source : List UInt8 := []
  deriving DecidableEq, Repr

/-- A packet, nothing yet, or an error. -/
abbrev Decoded := Except FeedError (Option Packet)

/-- A piece of what a source gives. -/
inductive Arrival
  | bytes (chunk : List UInt8)
  /-- A read fails; the cause is known by its text. -/
  | failure (cause : String)
  /-- There is nothing more to read. -/
  | endOfStream
  deriving DecidableEq, Repr

namespace Decoder

/-- Add bytes that arrived. -/
def append (d : Decoder) (chunk : List UInt8) : Decoder := { d with source := d.source ++ chunk }

/-- The next packet. Bytes leave the buffer only if no error is found. -/
def decode (d : Decoder) (time : Instant) : Decoded × Decoder :=
  match d.framer.pull time d.source with
  | (some (.ok p), framer, source) => (.ok (some p), { framer, source })
  | (some (.error e), framer, _) => (.error (.framing e), { d with framer })
  | (none, framer, source) => (.ok none, { framer, source })

/-- The next packet when no more bytes can arrive: a packet in progress is an error. -/
def decodeEnd (d : Decoder) (time : Instant) : Decoded × Decoder :=
  match d.decode time with
  | (.ok none, d) =>
    if d.framer.buffered = 0 then (.ok none, d) else (.error .connectionClosed, d)
  | r => r

/-- Decode until nothing more is there or an error is found, at most `n` times. The
last component says whether the end was reached without an error. -/
def decodeUpTo (step : Decoder → Decoded × Decoder) :
    Nat → Decoder → List (Except FeedError Packet) × Decoder × Bool
  | 0, d => ([], d, true)
  | n + 1, d =>
    match step d with
    | (.ok none, d) => ([], d, true)
    | (.ok (some p), d) =>
      let r := decodeUpTo step n d
      (.ok p :: r.1, r.2)
    | (.error e, d) => ([.error e], d, false)

/-- Decode everything that is there. Every packet takes a byte at least. -/
def decodeAll (step : Decoder → Decoded × Decoder) (d : Decoder) :
    List (Except FeedError Packet) × Decoder × Bool :=
  decodeUpTo step (d.source.length + 1) d

/-- The packets of a source, up to its end or the first error. An empty piece ends it. -/
def recording (time : Instant) : Decoder → List Arrival → List (Except FeedError Packet)
  | _, [] => []
  | d, .bytes [] :: _ | d, .endOfStream :: _ => (d.decodeAll (·.decodeEnd time)).1
  | _, .failure cause :: _ => [.error (.io cause)]
  | d, .bytes chunk :: rest =>
    match (d.append chunk).decodeAll (·.decode time) with
    | (items, d, true) => items ++ recording time d rest
    | (items, _, false) => items

end Decoder

/-- Write a packet after other bytes. -/
def encodePacket (p : Packet) (written : List UInt8) : List UInt8 := written ++ p.toBytes

end TimingFeed
