import TimingFeed.Proofs.Cache.Contents
import Mathlib.Tactic.ByContra

/-!
# Loaded caches are saved in normal form

A file may hold times with a second or more in their nanoseconds, and anything after its last
packet. Main statement: `save_load`. What is loaded can be saved, and the new file is the
beginning of the old one except for such times, in which the surplus is now among the seconds;
from then on loading and saving change nothing.

* `StoredPacket.carried` is a stored packet in normal form;
* `StoredPacket.Fits.record_packet`: what is loaded is written in normal form;
* `StoredPacket.time_of_getElem?_ne`: normal forms differ within surplus times only.
-/

namespace TimingFeed

/-- Lists that differ in one part only differ within that part. -/
theorem part_of_getElem?_ne {before part other after : List UInt8}
    (hlen : other.length = part.length) {i : Nat}
    (h : (before ++ (other ++ after))[i]? ≠ (before ++ (part ++ after))[i]?) :
    before.length ≤ i ∧ i < before.length + part.length := by
  constructor
  · by_contra hi
    rw [List.getElem?_append_left (Nat.lt_of_not_le hi),
      List.getElem?_append_left (Nat.lt_of_not_le hi)] at h
    exact h rfl
  · by_contra hi
    rw [List.getElem?_append_right (by omega), List.getElem?_append_right (by omega),
      List.getElem?_append_right (by omega), List.getElem?_append_right (by omega), hlen] at h
    exact h rfl

namespace StoredPacket

variable {r : StoredPacket}

/-- The normal form: less than a second in the nanoseconds. -/
def carried (r : StoredPacket) : StoredPacket :=
  { r with secs := r.secs + r.nanos / nanosPerSecond, nanos := r.nanos % nanosPerSecond }

theorem carried_eq_self (h : r.nanos < nanosPerSecond) : r.carried = r := by
  simp [carried, Nat.div_eq_of_lt h, Nat.mod_eq_of_lt h]

@[simp] theorem length_bytes_carried (r : StoredPacket) :
    r.carried.bytes.length = r.bytes.length := by
  simp [bytes, carried]

@[simp] theorem length_flatMap_carried (rs : List StoredPacket) :
    ((rs.map carried).flatMap bytes).length = (rs.flatMap bytes).length := by
  induction rs with
  | nil => rfl
  | cons r rs ih =>
    rw [List.map_cons, List.flatMap_cons, List.flatMap_cons, List.length_append,
      List.length_append, length_bytes_carried, ih]

/-! ### What is loaded is written in normal form -/

/-- The seconds of the packet are those stored and the carry. -/
theorem Fits.toInt_secs (h : r.Fits) :
    r.packet.time.secs.toInt = (r.secs + r.nanos / nanosPerSecond : Nat) := by
  rw [packet, Instant.ofParts, ← Int64.ofNat_add]
  exact Int64.toInt_ofNat_of_lt h.time

theorem Fits.not_isBeforeEpoch (h : r.Fits) : ¬ r.packet.time.IsBeforeEpoch := by
  rw [Instant.IsBeforeEpoch, Int64.lt_iff_toInt_lt, h.toInt_secs]
  exact Int.not_lt.2 (Int.natCast_nonneg _)

theorem Fits.record_packet (h : r.Fits) : r.packet.record = r.carried.bytes := by
  rw [Packet.record, h.toInt_secs, Int.toNat_natCast]
  rfl

/-- **A cache that was loaded is written with its stored packets in normal form.** -/
theorem file_ofList {rs : List StoredPacket} (h : ∀ r ∈ rs, r.Fits) :
    (PacketCache.ofList (rs.map packet)).file = file (rs.map carried) := by
  have hrecords : (rs.map packet).flatMap Packet.record = (rs.map carried).flatMap bytes := by
    rw [List.flatMap_map, List.flatMap_map]
    exact List.flatMap_congr fun r hr => (h r hr).record_packet
  rw [PacketCache.file, PacketCache.toList_ofList, hrecords, file, List.length_map,
    List.length_map]

/-! ### Where normal forms differ -/

/-- A stored packet differs from its normal form in its time only, and only with surplus
nanoseconds. -/
theorem time_of_bytes_ne {i : Nat} (h : r.carried.bytes[i]? ≠ r.bytes[i]?) :
    nanosPerSecond ≤ r.nanos ∧ 3 ≤ i ∧ i < 15 := by
  have hsurplus : nanosPerSecond ≤ r.nanos := by
    by_contra hless
    rw [carried_eq_self (Nat.lt_of_not_le hless)] at h
    exact h rfl
  refine ⟨hsurplus, ?_⟩
  simp only [bytes, carried] at h
  rw [← List.append_assoc (LittleEndian.encode 8 _), ← List.append_assoc (LittleEndian.encode 8 _)]
    at h
  simpa using part_of_getElem?_ne (by simp) h

/-- So do several, one after the other. -/
theorem time_of_getElem?_ne {rs : List StoredPacket} {i : Nat}
    (h : ((rs.map carried).flatMap bytes)[i]? ≠ (rs.flatMap bytes)[i]?) :
    ∃ before r after, rs = before ++ r :: after ∧ nanosPerSecond ≤ r.nanos ∧
      (before.flatMap bytes).length + 3 ≤ i ∧ i < (before.flatMap bytes).length + 15 := by
  induction rs generalizing i with
  | nil => exact absurd rfl h
  | cons r rs ih =>
    rw [List.map_cons, List.flatMap_cons, List.flatMap_cons] at h
    rcases Nat.lt_or_ge i r.bytes.length with hi | hi
    · rw [List.getElem?_append_left (by simpa using hi), List.getElem?_append_left hi] at h
      obtain ⟨hsurplus, hlo, hhi⟩ := time_of_bytes_ne h
      exact ⟨[], r, rs, rfl, hsurplus, by simpa using hlo, by simpa using hhi⟩
    · rw [List.getElem?_append_right (by simpa using hi), List.getElem?_append_right hi,
        length_bytes_carried] at h
      obtain ⟨before, q, after, rfl, hsurplus, hlo, hhi⟩ := ih h
      refine ⟨r :: before, q, after, rfl, hsurplus, ?_, ?_⟩ <;>
        rw [List.flatMap_cons, List.length_append] <;> omega

theorem length_file_carried (rs : List StoredPacket) :
    (file (rs.map carried)).length = (file rs).length := by
  simp only [file, List.length_append, LittleEndian.length_encode, length_flatMap_carried]

/-- Where the time of a stored packet begins in its file, when these come before it: behind the
first line, the number of packets, these packets, and its header and inline data. -/
def timeOffset (before : List StoredPacket) : Nat :=
  cacheSignature.length + 8 + (before.flatMap bytes).length + 3

/-- The files differ in surplus times only. -/
theorem time_of_file_ne {rs : List StoredPacket} {rest : List UInt8} {i : Nat}
    (hi : i < (file (rs.map carried)).length)
    (h : (file (rs.map carried))[i]? ≠ (file rs ++ rest)[i]?) :
    ∃ before r after, rs = before ++ r :: after ∧ nanosPerSecond ≤ r.nanos ∧
      timeOffset before ≤ i ∧ i < timeOffset before + 12 := by
  rw [List.getElem?_append_left (length_file_carried rs ▸ hi)] at h
  simp only [file, List.length_map, ← List.append_assoc] at h
  have hhead : (cacheSignature ++ LittleEndian.encode 8 rs.length).length =
      cacheSignature.length + 8 := by rw [List.length_append, LittleEndian.length_encode]
  generalize cacheSignature ++ LittleEndian.encode 8 rs.length = head at h hhead
  have hbehind : head.length ≤ i := by
    by_contra hbefore
    rw [List.getElem?_append_left (Nat.lt_of_not_le hbefore),
      List.getElem?_append_left (Nat.lt_of_not_le hbefore)] at h
    exact h rfl
  rw [List.getElem?_append_right hbehind, List.getElem?_append_right hbehind, hhead] at h
  obtain ⟨before, r, after, hrs, hsurplus, hlo, hhi⟩ := time_of_getElem?_ne h
  exact ⟨before, r, after, hrs, hsurplus, by rw [timeOffset]; omega, by rw [timeOffset]; omega⟩

end StoredPacket

namespace PacketCache

open StoredPacket

variable {c : PacketCache}

/-- **Loading normalises, and what is saved then is stable.** Let a cache be loaded from any file.
It can be saved. The new file is not longer and agrees with the old one, byte for byte, except in
the seconds and nanoseconds of packets that were stored with a second or more in the nanoseconds;
there the surplus has gone to the seconds. It is loaded as the same cache, and saving that writes
it again. -/
theorem save_load {bytes : List UInt8} (h : load (some bytes) = .ok c) :
    ∃ (saved : List UInt8) (rs : List StoredPacket) (rest : List UInt8),
      c.save true = .ok saved ∧ load (some saved) = .ok c ∧
      (∀ again, load (some saved) = .ok again → again.save true = .ok saved) ∧
      saved.length ≤ bytes.length ∧
      (∀ r ∈ rs, r.Fits) ∧ bytes = StoredPacket.file rs ++ rest ∧
      c = ofList (rs.map packet) ∧ saved = StoredPacket.file (rs.map carried) ∧
      ∀ i < saved.length, saved[i]? ≠ bytes[i]? →
        ∃ before r after, rs = before ++ r :: after ∧ nanosPerSecond ≤ r.nanos ∧
          timeOffset before ≤ i ∧ i < timeOffset before + 12 := by
  obtain ⟨rs, rest, hlen, hfits, rfl, rfl⟩ := load_eq_ok_iff.1 h
  have htimes : ∀ p ∈ (ofList (rs.map packet)).toList, ¬ p.time.IsBeforeEpoch :=
    List.forall_mem_map.2 fun r hr => (hfits r hr).not_isBeforeEpoch
  have hc : (ofList (rs.map packet)).Addressable :=
    ⟨by rwa [toList_ofList, List.length_map],
      List.forall_mem_map.2 fun r hr => (hfits r hr).payload⟩
  have hsave : (ofList (rs.map packet)).save true =
      .ok (StoredPacket.file (rs.map carried)) :=
    save_eq_ok_iff.2 ⟨htimes, (file_ofList hfits).symm⟩
  have hload : load (some (StoredPacket.file (rs.map carried))) =
      .ok (ofList (rs.map packet)) := by
    have hfile := decode_file htimes hc []
    rwa [List.append_nil, file_ofList hfits] at hfile
  refine ⟨_, rs, rest, hsave, hload, ?_, ?_, hfits, rfl, rfl, rfl, fun i => time_of_file_ne⟩
  · intro again hagain
    rw [hload] at hagain
    cases hagain
    exact hsave
  · rw [List.length_append, length_file_carried]
    exact Nat.le_add_right _ _

/-- A notice that was stored with two and a half seconds in its nanoseconds. -/
def surplusNotice : StoredPacket := ⟨⟨0xC0, 0x06⟩, 0, 10, 2500000000, [9, 8, 7]⟩

/-- It is saved in the same length with half a second in its nanoseconds, and without the byte
that followed it. -/
theorem save_load_surplusNotice :
    let bytes := StoredPacket.file [surplusNotice] ++ [1]
    let c := ofList [surplusNotice.packet]
    load (some bytes) = .ok c ∧
      ∃ saved, c.save true = .ok saved ∧ load (some saved) = .ok c ∧
        saved.length ≤ bytes.length := by
  have hload : load (some (StoredPacket.file [surplusNotice] ++ [1])) =
      .ok (ofList [surplusNotice.packet]) := by decide +kernel
  obtain ⟨saved, -, -, hsave, hagain, -, hlen, -⟩ := save_load hload
  exact ⟨hload, saved, hsave, hagain, hlen⟩

end PacketCache

end TimingFeed
