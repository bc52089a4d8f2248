import TimingFeed.Cache.Basic
import TimingFeed.Error
import TimingFeed.LittleEndian

/-!
# Cache files

A cache file is a line that names its version, the number of packets in eight bytes,
and a record per packet: the two header bytes, the inline data, the receipt time as
seconds in eight bytes and nanoseconds in four, the payload length in eight bytes and
the payload. Numbers stand in little-endian order.

* `PacketCache.encode` writes a file and `PacketCache.decode` reads one; bytes after
  the last record are ignored, and packets are not compared with their headers.
* Times before the epoch have no written form. On reading, surplus nanoseconds carry
  into the seconds, which must fit a moment.
-/

namespace TimingFeed

/-- The first line of every cache file. -/
def cacheSignature : List UInt8 := "live-timing packet cache v1\n".toUTF8.toList

/-- The first so many bytes and the rest, if there are so many. -/
def splitExactly : Nat → List UInt8 → Option (List UInt8 × List UInt8)
  | 0, rest => some ([], rest)
  | _ + 1, [] => none
  | n + 1, b :: rest => (splitExactly n rest).map fun (bs, rest) => (b :: bs, rest)

theorem splitExactly_append (bytes rest : List UInt8) :
    splitExactly bytes.length (bytes ++ rest) = some (bytes, rest) := by
  induction bytes with
  | nil => rfl
  | cons b bytes ih => simp [splitExactly, ih]

theorem append_of_splitExactly {n : Nat} {s bytes rest : List UInt8}
    (h : splitExactly n s = some (bytes, rest)) : bytes ++ rest = s ∧ bytes.length = n := by
  induction n generalizing s bytes with
  | zero => cases h; exact ⟨rfl, rfl⟩
  | succ n ih =>
    cases s with
    | nil => cases h
    | cons b s =>
      simp only [splitExactly, Option.map_eq_some_iff] at h
      obtain ⟨⟨bs, r⟩, hs, he⟩ := h
      cases he
      obtain ⟨h₁, h₂⟩ := ih hs
      exact ⟨by simp [h₁], by simp [h₂]⟩

/-! ## Receipt times -/

/-- Write a receipt time. -/
def Instant.encode (t : Instant) : Except RecordError (List UInt8) :=
  if t.secs < 0 then .error .timeBeforeEpoch
  else .ok (LittleEndian.encode 8 t.secs.toInt.toNat ++ LittleEndian.encode 4 t.nanos)

/-- The moment of a written time. -/
def Instant.ofWritten (secs nanos : Nat) : Except RecordError Instant :=
  let total := secs + nanos / nanosPerSecond
  if 0x10000000000000000 ≤ total then .error .offsetOverflow
  else if 0x8000000000000000 ≤ total then .error .timeOverflow
  else .ok (.ofParts (.ofNat secs) nanos)

/-! ## Records -/

/-- Read a number of `width` bytes. -/
def readNumber (width : Nat) (s : List UInt8) : Except RecordError (Nat × List UInt8) :=
  match splitExactly width s with
  | none => .error .endOfFile
  | some (bytes, rest) => .ok (LittleEndian.decode bytes, rest)

/-- Read so many bytes. -/
def readBytes (count : Nat) (s : List UInt8) : Except RecordError (List UInt8 × List UInt8) :=
  match splitExactly count s with
  | none => .error .endOfFile
  | some r => .ok r

/-- Write a record. -/
def Packet.encode (p : Packet) : Except RecordError (List UInt8) :=
  p.time.encode.map fun time =>
    p.header.first :: p.header.second :: p.data :: time ++
      LittleEndian.encode 8 p.payload.length ++ p.payload

/-- Read a record. -/
def Packet.decode : List UInt8 → Except RecordError (Packet × List UInt8)
  | first :: second :: data :: s => do
    let (secs, s) ← readNumber 8 s
    let (nanos, s) ← readNumber 4 s
    let time ← Instant.ofWritten secs nanos
    let (length, s) ← readNumber 8 s
    let (payload, s) ← readBytes length s
    return (⟨⟨first, second⟩, data, time, payload⟩, s)
  | _ => .error .endOfFile

namespace PacketCache

/-- Write records one after the other. -/
def encodeAll : List Packet → Except RecordError (List UInt8)
  | [] => .ok []
  | p :: ps => do
    let bytes ← p.encode
    let rest ← encodeAll ps
    return bytes ++ rest

/-- Read so many records. -/
def decodeAll : Nat → List UInt8 → Except RecordError (List Packet × List UInt8)
  | 0, s => .ok ([], s)
  | n + 1, s => do
    let (p, s) ← Packet.decode s
    let (ps, s) ← decodeAll n s
    return (p :: ps, s)

/-- Write a file. -/
def encode (c : PacketCache) : Except FeedError (List UInt8) :=
  match encodeAll c.toList with
  | .error e => .error (.serialization e)
  | .ok records => .ok (cacheSignature ++ LittleEndian.encode 8 c.toList.length ++ records)

/-- Read the records of a file, after its first line. -/
def decodeRecords (s : List UInt8) : Except RecordError (List Packet) := do
  let (count, s) ← readNumber 8 s
  let (ps, _) ← decodeAll count s
  return ps

/-- Read a file. -/
def decode (s : List UInt8) : Except FeedError PacketCache :=
  match splitExactly cacheSignature.length s with
  | none => .error (.cache .truncated)
  | some (signature, s) =>
    if signature = cacheSignature then
      match decodeRecords s with
      | .error e => .error (.serialization e)
      | .ok ps => .ok (ofList ps)
    else .error (.cache .unsupportedVersion)

/-- Save in a directory that may be missing; gives the contents of the file. -/
def save (c : PacketCache) (directoryExists : Bool) : Except FeedError (List UInt8) :=
  if directoryExists then c.encode else .error (.io FileError.notFound.message)

/-- Load from the contents of a file, if there is one. -/
def load : Option (List UInt8) → Except FeedError PacketCache
  | none => .error (.io FileError.notFound.message)
  | some bytes => decode bytes

end PacketCache

end TimingFeed
