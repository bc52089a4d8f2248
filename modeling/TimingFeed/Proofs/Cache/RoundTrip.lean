import TimingFeed.Cache.File
import Mathlib.Data.List.Basic

/-!
# Saved caches are loaded again

A cache file has no separators: what comes next is known only from the bytes before it. Main
statement: `load_save`. A cache is saved unless a packet is stamped before the epoch, and what is
saved is loaded as the same cache.

* `Packet.record` and `PacketCache.file` are the written forms; `encode_eq`, `encodeAll_eq` and
  `PacketCache.encode_eq` say when they are written;
* `readNumber_encode`, `Packet.decode_record`, `decodeAll_records` and `decode_file` read them
  back in front of any other bytes.
-/

namespace TimingFeed

/-! ### Numbers and bytes -/

/-- A number that fits its width is read in front of anything. -/
theorem readNumber_encode {w n : Nat} (h : n < Nat.pow 256 w) (rest : List UInt8) :
    readNumber w (LittleEndian.encode w n ++ rest) = .ok (n, rest) := by
  have hsplit := splitExactly_append (LittleEndian.encode w n) rest
  rw [LittleEndian.length_encode] at hsplit
  rw [readNumber, hsplit]
  simp only [LittleEndian.decode_encode h]

theorem readBytes_append (bytes rest : List UInt8) :
    readBytes bytes.length (bytes ++ rest) = .ok (bytes, rest) := by
  rw [readBytes, splitExactly_append]

/-! ### Receipt times -/

namespace Instant

variable {t : Instant}

/-- Whether a moment comes before the epoch. Its seconds are rounded down, so their sign tells. -/
def IsBeforeEpoch (t : Instant) : Prop := t.secs < 0

instance (t : Instant) : Decidable t.IsBeforeEpoch := inferInstanceAs (Decidable (_ < _))

/-- The seconds since the epoch of a moment that does not come before it. -/
theorem toInt_secs (h : ¬ t.IsBeforeEpoch) : (t.secs.toInt.toNat : Int) = t.secs.toInt := by
  rw [IsBeforeEpoch, Int64.lt_iff_toInt_lt] at h
  exact Int.toNat_of_nonneg (Int.not_lt.1 h)

theorem toNat_secs_lt (t : Instant) : t.secs.toInt.toNat < 0x8000000000000000 := by
  have := t.secs.toInt_lt
  omega

/-- The written seconds and nanoseconds are those of the moment. -/
theorem ofWritten_self (h : ¬ t.IsBeforeEpoch) :
    ofWritten t.secs.toInt.toNat t.nanos = .ok t := by
  have hcarry : t.nanos / nanosPerSecond = 0 := Nat.div_eq_of_lt t.nanos_lt
  have hsecs := t.toNat_secs_lt
  have hback : Int64.ofNat t.secs.toInt.toNat = t.secs := by
    rw [← Int64.ofInt_eq_ofNat, toInt_secs h, Int64.ofInt_toInt]
  unfold ofWritten
  rw [hcarry, Nat.add_zero, hback, ofParts_self]
  dsimp only
  rw [if_neg (by omega), if_neg (by omega)]

end Instant

/-! ### Records -/

namespace Packet

variable {p : Packet}

/-- The written form of a packet that was not received before the epoch. -/
def record (p : Packet) : List UInt8 :=
  [p.header.first, p.header.second, p.data] ++ (LittleEndian.encode 8 p.time.secs.toInt.toNat ++
    (LittleEndian.encode 4 p.time.nanos ++ (LittleEndian.encode 8 p.payload.length ++ p.payload)))

/-- A packet is written unless it was received before the epoch. -/
theorem encode_eq (p : Packet) :
    p.encode = if p.time.IsBeforeEpoch then .error .timeBeforeEpoch else .ok p.record := by
  rw [encode, Instant.encode]
  by_cases h : p.time.secs < 0
  · rw [if_pos h, if_pos (show p.time.IsBeforeEpoch from h)]
    rfl
  · rw [if_neg h, if_neg (show ¬ p.time.IsBeforeEpoch from h)]
    simp [Except.map, record]

/-- **A record is read back in front of anything.** -/
theorem decode_record (htime : ¬ p.time.IsBeforeEpoch)
    (hlen : p.payload.length < 0x10000000000000000) (rest : List UInt8) :
    decode (p.record ++ rest) = .ok (p, rest) := by
  have hsecs : p.time.secs.toInt.toNat < Nat.pow 256 8 :=
    Nat.lt_trans p.time.toNat_secs_lt (by decide)
  have hnanos : p.time.nanos < Nat.pow 256 4 := Nat.lt_trans p.time.nanos_lt (by decide)
  simp only [record, List.cons_append, List.nil_append, List.append_assoc, decode,
    readNumber_encode hsecs, readNumber_encode hnanos, Instant.ofWritten_self htime,
    readNumber_encode (w := 8) hlen, readBytes_append, bind, Except.bind, pure, Except.pure]

end Packet

namespace PacketCache

/-- Records are written if none of the packets was received before the epoch. -/
theorem encodeAll_eq (ps : List Packet) :
    encodeAll ps =
      if ∀ p ∈ ps, ¬ p.time.IsBeforeEpoch then .ok (ps.flatMap Packet.record)
      else .error .timeBeforeEpoch := by
  induction ps with
  | nil => rfl
  | cons p ps ih =>
    simp only [encodeAll, p.encode_eq, ih, List.forall_mem_cons]
    by_cases hp : p.time.IsBeforeEpoch
    · rw [if_pos hp]
      exact (if_neg fun h => h.1 hp).symm
    · by_cases hps : ∀ q ∈ ps, ¬ q.time.IsBeforeEpoch
      · rw [if_neg hp, if_pos hps]
        exact (if_pos ⟨hp, hps⟩).symm
      · rw [if_neg hp, if_neg hps]
        exact (if_neg fun h => hps h.2).symm

/-- **Records are read back one after the other.** -/
theorem decodeAll_records {ps : List Packet} (htimes : ∀ p ∈ ps, ¬ p.time.IsBeforeEpoch)
    (hlens : ∀ p ∈ ps, p.payload.length < 0x10000000000000000) (rest : List UInt8) :
    decodeAll ps.length (ps.flatMap Packet.record ++ rest) = .ok (ps, rest) := by
  induction ps with
  | nil => rfl
  | cons p ps ih =>
    rw [List.forall_mem_cons] at htimes hlens
    rw [List.length_cons, decodeAll, List.flatMap_cons, List.append_assoc,
      Packet.decode_record htimes.1 hlens.1]
    simp only [bind, Except.bind, ih htimes.2 hlens.2, pure, Except.pure]

/-! ### Files -/

variable {c : PacketCache}

/-- The number of packets and the lengths of their payloads fit the 64 bits in which they are
written, as those of anything in memory do. -/
structure Addressable (c : PacketCache) : Prop where
  packets : c.toList.length < 0x10000000000000000
  payloads : ∀ p ∈ c.toList, p.payload.length < 0x10000000000000000

/-- The written form of a cache without packets from before the epoch. -/
def file (c : PacketCache) : List UInt8 :=
  cacheSignature ++ (LittleEndian.encode 8 c.toList.length ++ c.toList.flatMap Packet.record)

theorem encode_eq (c : PacketCache) :
    c.encode =
      if ∀ p ∈ c.toList, ¬ p.time.IsBeforeEpoch then .ok c.file
      else .error (.serialization .timeBeforeEpoch) := by
  rw [encode, encodeAll_eq]
  by_cases h : ∀ p ∈ c.toList, ¬ p.time.IsBeforeEpoch
  · simp only [if_pos h, file, List.append_assoc]
  · simp only [if_neg h]

/-- **A file is read back, whatever comes after it.** -/
theorem decode_file (htimes : ∀ p ∈ c.toList, ¬ p.time.IsBeforeEpoch) (hc : c.Addressable)
    (rest : List UInt8) : decode (c.file ++ rest) = .ok c := by
  have hrecords : decodeRecords (LittleEndian.encode 8 c.toList.length ++
      (c.toList.flatMap Packet.record ++ rest)) = .ok c.toList := by
    simp only [decodeRecords, readNumber_encode (w := 8) hc.packets,
      decodeAll_records htimes hc.payloads, bind, Except.bind, pure, Except.pure]
  simp only [file, List.append_assoc, decode, splitExactly_append, if_true, hrecords, ofList_toList]

/-- **What is saved is loaded again.** In a directory that exists a cache is saved exactly if no
packet is stamped before the epoch; otherwise the packets cannot be serialised. What is saved is
loaded as the same packets in the same order, headers, inline data, receipt times and payloads
included. -/
theorem load_save (c : PacketCache) :
    ((∃ bytes, c.save true = .ok bytes) ↔ ∀ p ∈ c.toList, ¬ p.time.IsBeforeEpoch) ∧
      ((∃ p ∈ c.toList, p.time.IsBeforeEpoch) →
        c.save true = .error (.serialization .timeBeforeEpoch)) ∧
      (c.Addressable → ∀ bytes, c.save true = .ok bytes → load (some bytes) = .ok c) := by
  have hsave : c.save true = c.encode := rfl
  rw [hsave, encode_eq]
  by_cases htimes : ∀ p ∈ c.toList, ¬ p.time.IsBeforeEpoch
  · rw [if_pos htimes]
    refine ⟨iff_of_true ⟨_, rfl⟩ htimes, ?_, ?_⟩
    · rintro ⟨p, hp, hbefore⟩
      exact absurd hbefore (htimes p hp)
    · rintro hc bytes hbytes
      cases hbytes
      have hload := decode_file htimes hc []
      rwa [List.append_nil] at hload
  · rw [if_neg htimes]
    exact ⟨iff_of_false nofun htimes, fun _ => rfl, nofun⟩

/-- A notice received within a second and an event received at the epoch. -/
def noticeAndEvent : PacketCache :=
  .ofList [.assemble ⟨0xC0, 0x06⟩ [9, 8, 7] ⟨10, 500, by decide⟩,
    .assemble ⟨0x20, 0x00⟩ [] .epoch]

/-- The same with an event received just before the epoch. -/
def noticeAndEarlyEvent : PacketCache :=
  noticeAndEvent.push (.assemble ⟨0x20, 0x00⟩ [] ⟨-1, 999999999, by decide⟩)

/-- The first is read back from its file, the second has none. -/
theorem load_save_noticeAndEvent :
    load (some noticeAndEvent.file) = .ok noticeAndEvent ∧
      noticeAndEarlyEvent.save true = .error (.serialization .timeBeforeEpoch) :=
  ⟨(load_save noticeAndEvent).2.2 ⟨by decide, by decide⟩ noticeAndEvent.file (by decide +kernel),
    (load_save noticeAndEarlyEvent).2.1
      ⟨.assemble ⟨0x20, 0x00⟩ [] ⟨-1, 999999999, by decide⟩, by decide, by decide⟩⟩

end PacketCache

end TimingFeed
