import TimingFeed.Proofs.Cache.RoundTrip
import TimingFeed.Proofs.Result

/-!
# What a cache file holds

Which bytes are a cache file, and which cache they stand for. Main statement: `load_eq_ok_iff`. A
file is loaded exactly if it is the file of some stored packets, followed by anything.

* `StoredPacket` is a packet as it stands in a file, with any seconds and nanoseconds that fit;
* `StoredPacket.bytes`, `StoredPacket.packet` and `StoredPacket.file` are what it looks like, what
  it is read as, and the file of several;
* `Packet.decode_eq_ok_iff` and `decodeAll_eq_ok_iff` say when a record and several are read;
* `save_eq_ok_iff` says what is saved.
-/

namespace TimingFeed

/-! ### Fields -/

theorem splitExactly_eq_some_iff {n : Nat} {s bytes rest : List UInt8} :
    splitExactly n s = some (bytes, rest) ↔ bytes.length = n ∧ s = bytes ++ rest := by
  constructor
  · intro h
    obtain ⟨hs, hlen⟩ := append_of_splitExactly h
    exact ⟨hlen, hs.symm⟩
  · rintro ⟨rfl, rfl⟩
    exact splitExactly_append bytes rest

theorem readBytes_eq_ok_iff {n : Nat} {s bytes rest : List UInt8} :
    readBytes n s = .ok (bytes, rest) ↔ bytes.length = n ∧ s = bytes ++ rest := by
  rw [← splitExactly_eq_some_iff, readBytes]
  cases splitExactly n s <;> simp

/-- A number is read exactly from its written form. -/
theorem readNumber_eq_ok_iff {w n : Nat} {s rest : List UInt8} :
    readNumber w s = .ok (n, rest) ↔
      n < Nat.pow 256 w ∧ s = LittleEndian.encode w n ++ rest := by
  constructor
  · intro h
    rcases hs : splitExactly w s with _ | ⟨bytes, rest'⟩ <;> rw [readNumber, hs] at h <;> cases h
    obtain ⟨rfl, rfl⟩ := splitExactly_eq_some_iff.1 hs
    exact ⟨LittleEndian.decode_lt bytes, by rw [LittleEndian.encode_decode]⟩
  · rintro ⟨hn, rfl⟩
    exact readNumber_encode hn rest

/-- A written time stands for a moment if its seconds and the carry fit. -/
theorem Instant.ofWritten_eq_ok_iff {secs nanos : Nat} {t : Instant} :
    ofWritten secs nanos = .ok t ↔
      secs + nanos / nanosPerSecond < 0x8000000000000000 ∧ t = .ofParts (.ofNat secs) nanos := by
  unfold ofWritten
  dsimp only
  split
  · exact iff_of_false nofun (by omega)
  · split
    · exact iff_of_false nofun (by omega)
    · next hfits => simp [Nat.lt_of_not_le hfits, eq_comm]

/-! ### Stored packets -/

/-- A packet as it stands in a file. -/
structure StoredPacket where
  header : Header
  data : UInt8
  secs : Nat
  nanos : Nat
  payload : List UInt8
  deriving DecidableEq, Repr

namespace StoredPacket

/-- The numbers fit their fields, and the time is a moment. -/
structure Fits (r : StoredPacket) : Prop where
  time : r.secs + r.nanos / nanosPerSecond < 0x8000000000000000
  nanos : r.nanos < 0x100000000
  payload : r.payload.length < 0x10000000000000000

/-- How a stored packet looks. -/
def bytes (r : StoredPacket) : List UInt8 :=
  [r.header.first, r.header.second, r.data] ++ (LittleEndian.encode 8 r.secs ++
    (LittleEndian.encode 4 r.nanos ++ (LittleEndian.encode 8 r.payload.length ++ r.payload)))

/-- What a stored packet is read as. Surplus nanoseconds carry into the seconds. -/
def packet (r : StoredPacket) : Packet :=
  ⟨r.header, r.data, .ofParts (.ofNat r.secs) r.nanos, r.payload⟩

/-- The file of stored packets. -/
def file (rs : List StoredPacket) : List UInt8 :=
  cacheSignature ++ (LittleEndian.encode 8 rs.length ++ rs.flatMap bytes)

end StoredPacket

/-- **A record is read exactly from the bytes of a stored packet that fits.** -/
theorem Packet.decode_eq_ok_iff {s rest : List UInt8} {p : Packet} :
    decode s = .ok (p, rest) ↔
      ∃ r : StoredPacket, r.Fits ∧ s = r.bytes ++ rest ∧ p = r.packet := by
  constructor
  · intro h
    match s with
    | [] | [_] | [_, _] => cases h
    | first :: second :: data :: s =>
      simp only [decode, bind_eq_ok_iff, Prod.exists, readNumber_eq_ok_iff, readBytes_eq_ok_iff,
        Instant.ofWritten_eq_ok_iff] at h
      obtain ⟨secs, s, ⟨-, rfl⟩, nanos, s, ⟨hnanos, rfl⟩, time, ⟨htime, rfl⟩, length, s,
        ⟨hlen, rfl⟩, payload, s, ⟨rfl, rfl⟩, hp⟩ := h
      cases hp
      exact ⟨⟨⟨first, second⟩, data, secs, nanos, payload⟩, ⟨htime, hnanos, hlen⟩,
        by simp [StoredPacket.bytes], rfl⟩
  · rintro ⟨r, hr, rfl, rfl⟩
    have hsecs : r.secs < Nat.pow 256 8 :=
      Nat.lt_trans (Nat.lt_of_le_of_lt (Nat.le_add_right _ _) hr.time) (by decide)
    have htime := Instant.ofWritten_eq_ok_iff.2 ⟨hr.time, rfl⟩
    simp only [StoredPacket.bytes, List.cons_append, List.nil_append, List.append_assoc, decode,
      readNumber_encode hsecs, readNumber_encode (w := 4) hr.nanos, htime,
      readNumber_encode (w := 8) hr.payload, readBytes_append, bind, Except.bind]
    rfl

namespace PacketCache

/-- **So are records, one after the other.** -/
theorem decodeAll_eq_ok_iff {n : Nat} {s rest : List UInt8} {ps : List Packet} :
    decodeAll n s = .ok (ps, rest) ↔
      ∃ rs : List StoredPacket, rs.length = n ∧ (∀ r ∈ rs, r.Fits) ∧
        s = rs.flatMap StoredPacket.bytes ++ rest ∧ ps = rs.map StoredPacket.packet := by
  induction n generalizing s rest ps with
  | zero =>
    constructor
    · intro h
      cases h
      exact ⟨[], rfl, List.forall_mem_nil _, rfl, rfl⟩
    · rintro ⟨rs, hlen, -, rfl, rfl⟩
      obtain rfl := List.length_eq_zero_iff.1 hlen
      rfl
  | succ n ih =>
    simp only [decodeAll, bind_eq_ok_iff, Prod.exists, Packet.decode_eq_ok_iff, ih]
    constructor
    · rintro ⟨_, _, ⟨r, hr, rfl, rfl⟩, _, _, ⟨rs, rfl, hrs, rfl, rfl⟩, hps⟩
      cases hps
      exact ⟨r :: rs, rfl, List.forall_mem_cons.2 ⟨hr, hrs⟩, by simp, rfl⟩
    · rintro ⟨_ | ⟨r, rs⟩, hlen, hrs, rfl, rfl⟩
      · cases hlen
      · rw [List.forall_mem_cons] at hrs
        exact ⟨r.packet, rs.flatMap StoredPacket.bytes ++ rest, ⟨r, hrs.1, by simp, rfl⟩,
          rs.map StoredPacket.packet, rest, ⟨rs, Nat.succ.inj hlen, hrs.2, rfl, rfl⟩, rfl⟩

theorem decodeRecords_eq_ok_iff {s : List UInt8} {ps : List Packet} :
    decodeRecords s = .ok ps ↔
      ∃ (rs : List StoredPacket) (rest : List UInt8), rs.length < 0x10000000000000000 ∧
        (∀ r ∈ rs, r.Fits) ∧
        s = LittleEndian.encode 8 rs.length ++ rs.flatMap StoredPacket.bytes ++ rest ∧
        ps = rs.map StoredPacket.packet := by
  simp only [decodeRecords, bind_eq_ok_iff, Prod.exists, readNumber_eq_ok_iff,
    decodeAll_eq_ok_iff]
  constructor
  · rintro ⟨_, _, ⟨hlen, rfl⟩, _, rest, ⟨rs, rfl, hrs, rfl, rfl⟩, hps⟩
    cases hps
    exact ⟨rs, rest, hlen, hrs, by simp, rfl⟩
  · rintro ⟨rs, rest, hlen, hrs, rfl, rfl⟩
    exact ⟨rs.length, rs.flatMap StoredPacket.bytes ++ rest, ⟨hlen, by simp⟩,
      rs.map StoredPacket.packet, rest, ⟨rs, rfl, hrs, rfl, rfl⟩, rfl⟩

/-- What is saved is the written form, of a cache without packets from before the epoch. -/
theorem save_eq_ok_iff {c : PacketCache} {bytes : List UInt8} :
    c.save true = .ok bytes ↔ (∀ p ∈ c.toList, ¬ p.time.IsBeforeEpoch) ∧ bytes = c.file := by
  have hsave : c.save true = c.encode := rfl
  rw [hsave, encode_eq]
  split
  · next htimes =>
    rw [and_iff_right htimes, Except.ok.injEq]
    exact eq_comm
  · next htimes => exact iff_of_false nofun fun h => htimes h.1

/-- **Which files are loaded, and as what.** -/
theorem load_eq_ok_iff {bytes : List UInt8} {c : PacketCache} :
    load (some bytes) = .ok c ↔
      ∃ (rs : List StoredPacket) (rest : List UInt8), rs.length < 0x10000000000000000 ∧
        (∀ r ∈ rs, r.Fits) ∧ bytes = StoredPacket.file rs ++ rest ∧
        c = ofList (rs.map StoredPacket.packet) := by
  constructor
  · intro h
    rw [load, decode] at h
    split at h
    · cases h
    · next signature s hsplit =>
      split at h
      · next hsignature =>
        split at h
        · cases h
        · next ps hps =>
          cases h
          obtain ⟨rs, rest, hlen, hrs, rfl, rfl⟩ := decodeRecords_eq_ok_iff.1 hps
          refine ⟨rs, rest, hlen, hrs, ?_, rfl⟩
          rw [(splitExactly_eq_some_iff.1 hsplit).2, hsignature, StoredPacket.file]
          simp only [List.append_assoc]
      · cases h
  · rintro ⟨rs, rest, hlen, hrs, rfl, rfl⟩
    have hrecords := decodeRecords_eq_ok_iff.2 ⟨rs, rest, hlen, hrs, rfl, rfl⟩
    rw [load, StoredPacket.file, List.append_assoc, decode, splitExactly_append]
    simp only [if_true, hrecords]

end PacketCache

end TimingFeed
