import TimingFeed.Proofs.Framer.Chunking

/-!
# The framing of a stream

Every byte string is, in exactly one way, a list of frames and the beginning of another one.
Main statement: `feed_framing`. A fresh framer finds this decomposition, and gives back the
packets of any list of frames that stand one after the other.

* `Framing` says what the decomposition is, without the framer;
* `exists_framing` cuts a byte string from the front, `pushAll_wire` runs a framer over whole
  frames, and `feed_of_framing` puts them together.
-/

namespace TimingFeed

/-- The bytes are those of the packets, each of which is a frame of its own, and a tail that
stops before the end of its frame. -/
structure Framing (wire : List UInt8) (packets : List Packet) (tail : List UInt8) : Prop where
  bytes : packets.flatMap Packet.toBytes ++ tail = wire
  length : ∀ p ∈ packets, p.toBytes.length = p.header.frameLength
  frame : ∀ p ∈ packets, Packet.ofFrame p.toBytes p.time = .ok p
  tail_lt : tail.length < headerLength ∨
    ∃ (header : Header) (payload : List UInt8),
      tail = header.toBytes ++ payload ∧ tail.length < header.frameLength

theorem Packet.wellFormed_assemble {header : Header} {payload : List UInt8}
    (h : payload.length = header.payloadLength) (time : Instant) :
    (Packet.assemble header payload time).WellFormed := ⟨h, rfl⟩

/-- A well-formed packet takes the bytes that its header announces. -/
theorem Packet.WellFormed.length_toBytes {p : Packet} (h : p.WellFormed) :
    p.toBytes.length = p.header.frameLength := by
  rw [Packet.length_toBytes, h.1, Header.frameLength]

/-- What a well-formed packet says is in its header and payload. -/
theorem Packet.WellFormed.stamped_eq {p : Packet} (h : p.WellFormed) (time : Instant) :
    p.stamped time = .assemble p.header p.payload time := by
  rw [Packet.stamped, Packet.assemble, h.2]

theorem Framing.wellFormed {wire tail : List UInt8} {packets : List Packet}
    (h : Framing wire packets tail) : ∀ p ∈ packets, p.WellFormed :=
  fun p hp => (Packet.toBytes_of_ofFrame (h.frame p hp)).2.1

/-- The tail of a framing is an unfinished packet for the largest limit. -/
theorem Framing.unfinished {wire tail : List UInt8} {packets : List Packet}
    (h : Framing wire packets tail) : Framer.Unfinished maxPayload tail := by
  rcases h.tail_lt with hs | ⟨header, payload, rfl, hlt⟩
  · exact Framer.unfinished_of_short hs
  · intro header' payload' he
    obtain ⟨rfl, rfl⟩ := Header.toBytes_append_inj he
    rw [List.length_append, Header.length_toBytes, Header.frameLength] at hlt
    exact ⟨header.payloadLength_le, by omega⟩

/-- A frame in front of a framing. -/
theorem Framing.cons {wire tail : List UInt8} {packets : List Packet} {p : Packet}
    (h : Framing wire packets tail) (hp : p.WellFormed) :
    Framing (p.toBytes ++ wire) (p :: packets) tail where
  bytes := by rw [List.flatMap_cons, List.append_assoc, h.bytes]
  length := List.forall_mem_cons.2 ⟨hp.length_toBytes, h.length⟩
  frame := List.forall_mem_cons.2 ⟨Packet.ofFrame_toBytes hp, h.frame⟩
  tail_lt := h.tail_lt

/-- The framing of what follows the whole frames goes on behind them. -/
theorem Framing.append {wire more tail rest : List UInt8} {packets later : List Packet}
    (h : Framing wire packets tail) (hlater : Framing (tail ++ more) later rest) :
    Framing (wire ++ more) (packets ++ later) rest where
  bytes := by
    rw [List.flatMap_append, List.append_assoc, hlater.bytes, ← List.append_assoc, h.bytes]
  length := List.forall_mem_append.2 ⟨h.length, hlater.length⟩
  frame := List.forall_mem_append.2 ⟨h.frame, hlater.frame⟩
  tail_lt := hlater.tail_lt

/-- Well-formed packets, one after the other, are a framing without a tail. -/
theorem framing_of_wellFormed {packets : List Packet} (h : ∀ p ∈ packets, p.WellFormed) :
    Framing (packets.flatMap Packet.toBytes) packets [] where
  bytes := List.append_nil _
  length p hp := (h p hp).length_toBytes
  frame p hp := Packet.ofFrame_toBytes (h p hp)
  tail_lt := .inl (by decide)

/-- Every byte string has a framing. -/
theorem exists_framing (time : Instant) (wire : List UInt8) :
    ∃ packets tail, Framing wire packets tail ∧ ∀ p ∈ packets, p.time = time := by
  induction hn : wire.length using Nat.strongRecOn generalizing wire with
  | ind n ih =>
    rcases Framer.short_or_header wire with hs | ⟨header, payload, rfl⟩
    · exact ⟨[], wire, ⟨rfl, by simp, by simp, .inl hs⟩, by simp⟩
    · have hlen : (header.toBytes ++ payload).length = headerLength + payload.length := by
        rw [List.length_append, Header.length_toBytes]
      by_cases hlt : payload.length < header.payloadLength
      · have htail : (header.toBytes ++ payload).length < header.frameLength := by
          rw [hlen, Header.frameLength]
          omega
        exact ⟨[], header.toBytes ++ payload,
          ⟨rfl, by simp, by simp, .inr ⟨header, payload, rfl, htail⟩⟩, by simp⟩
      · -- The first frame is there; what follows it is shorter.
        have hfirst : (payload.take header.payloadLength).length = header.payloadLength := by
          rw [List.length_take]
          omega
        have hwf := Packet.wellFormed_assemble hfirst time
        have hless : (payload.drop header.payloadLength).length < n := by
          rw [List.length_drop, ← hn, hlen, headerLength]
          omega
        obtain ⟨packets, tail, hframing, htimes⟩ := ih _ hless _ rfl
        have hwire : (Packet.assemble header (payload.take header.payloadLength) time).toBytes ++
            payload.drop header.payloadLength = header.toBytes ++ payload := by
          rw [Packet.toBytes_assemble, List.append_assoc, List.take_append_drop]
        exact ⟨_, tail, hwire ▸ hframing.cons hwf, List.forall_mem_cons.2 ⟨rfl, htimes⟩⟩

namespace Framer

variable (time : Instant)

/-- Whole frames within the limit give their packets, and the run goes on behind them. -/
theorem pushAll_wire {f : Framer} (hheld : f.held = []) {packets : List Packet}
    (hwf : ∀ p ∈ packets, p.WellFormed) (hlimit : ∀ p ∈ packets, p.payload.length ≤ f.limit)
    (rest : List UInt8) :
    pushAll time f (packets.flatMap Packet.toBytes ++ rest) =
      (packets.map (fun p => .ok (p.stamped time)) ++ (pushAll time f rest).1,
        (pushAll time f rest).2) := by
  induction packets with
  | nil => rfl
  | cons p packets ih =>
    rw [List.forall_mem_cons] at hwf hlimit
    have hempty : { f with held := [] } = f := by rw [← hheld]
    have hne : p.toBytes ≠ [] := by simp [Packet.toBytes, Header.toBytes]
    have hframe : f.held ++ p.toBytes = p.header.toBytes ++ p.payload := by
      rw [hheld]
      rfl
    rw [List.flatMap_cons, List.append_assoc,
      pushAll_frame time hframe (hwf.1.1 ▸ hlimit.1) hwf.1.1 hne, hempty, ih hwf.2 hlimit.2,
      ← hwf.1.stamped_eq time]
    rfl

/-- A fresh framer finds any framing of what it is fed. -/
theorem feed_of_framing {wire tail : List UInt8} {packets : List Packet}
    (h : Framing wire packets tail) :
    ({} : Framer).feed time wire =
      (packets.map (fun p => .ok (p.stamped time)), { held := tail }, []) := by
  have hlimit : ∀ p ∈ packets, p.payload.length ≤ maxPayload := fun p hp =>
    (h.wellFormed p hp).1 ▸ p.header.payloadLength_le
  rw [feed_of_sound time rfl, ← h.bytes, pushAll_wire time rfl h.wellFormed hlimit,
    pushAll_unfinished time h.unfinished]
  simp

/-- A framer that holds the tail of a framing goes on with it. -/
theorem feed_of_tail {wire tail : List UInt8} {packets : List Packet}
    (h : Framing wire packets tail) (chunk : List UInt8) :
    ∃ later rest, Framing (wire ++ chunk) (packets ++ later) rest ∧
      ({ held := tail } : Framer).feed time chunk = (later.map .ok, { held := rest }, []) := by
  obtain ⟨later, rest, hlater, htimes⟩ := exists_framing time (tail ++ chunk)
  have hstamp : later.map (fun p => (.ok (p.stamped time) : FramedItem)) = later.map .ok :=
    List.map_congr_left fun p hp => by
      rw [← htimes p hp]
      rfl
  refine ⟨later, rest, h.append hlater, ?_⟩
  -- The same run, begun one packet earlier: the tail comes first and is held.
  have hwhole := feed_of_framing time hlater
  have htail := pushAll_unfinished time (f := {}) h.unfinished
  rw [feed_of_sound time rfl, pushAll_append_of_ok, htail, hstamp] at hwhole
  · rw [feed_of_sound time rfl, ← hwhole]
    rfl
  · rw [htail]
    rfl

/-- A byte string has no second framing. -/
theorem framing_unique {wire tail rest : List UInt8} {packets others : List Packet}
    (h : Framing wire packets tail) (hother : Framing wire others rest) :
    others.map Packet.untimed = packets.map Packet.untimed ∧ rest = tail := by
  -- Any framing is what the same run finds.
  have hsame := (feed_of_framing .epoch hother).symm.trans (feed_of_framing .epoch h)
  have hitems := congrArg (fun run => packetsOf run.1) hsame
  have hheld := congrArg (fun run => run.2.1.held) hsame
  simp only [packetsOf_map_ok] at hitems hheld
  exact ⟨hitems, hheld⟩

/-- The expected length is that of the packet in progress, once its header is there. -/
theorem expected_of_framing {wire tail : List UInt8} {packets : List Packet}
    (h : Framing wire packets tail) :
    tail.length < headerLength ∧ ({ held := tail } : Framer).expected? = none ∨
      ∃ (header : Header) (payload : List UInt8), tail = header.toBytes ++ payload ∧
        tail.length < header.frameLength ∧
        ({ held := tail } : Framer).expected? = some header.frameLength := by
  rcases h.tail_lt with hs | ⟨header, payload, rfl, hlt⟩
  · refine .inl ⟨hs, ?_⟩
    rcases tail with _ | ⟨first, _ | ⟨second, payload⟩⟩
    · rfl
    · rfl
    · exact absurd hs (by simp [headerLength])
  · exact .inr ⟨header, payload, rfl, hlt, rfl⟩

/-- A fresh framer that is fed in chunks finds the framing of all bytes. -/
theorem feedEach_of_framing {wire tail : List UInt8} {packets : List Packet}
    (h : Framing wire packets tail) {chunks : List (Instant × List UInt8)}
    (hchunks : chunks.flatMap (·.2) = wire) :
    ∃ received : List Packet,
      ({} : Framer).feedEach chunks = (received.map .ok, { held := tail }) ∧
        received.map Packet.untimed = packets.map Packet.untimed := by
  obtain ⟨hitems, hstate⟩ := feedEach_of_sound .epoch (f := {}) rfl chunks
  rw [hchunks, ← feed_of_sound .epoch rfl, feed_of_framing .epoch h] at hitems hstate
  have hok : firstError? (({} : Framer).feedEach chunks).1 = none := by
    rw [← firstError?_untilError, ← firstError?_stamp _ .epoch, hitems, firstError?_map_ok]
  rw [untilError_of_ok hok] at hitems
  refine ⟨packetsOf (({} : Framer).feedEach chunks).1, Prod.ext ?_ hstate, ?_⟩
  · exact eq_map_ok_of_firstError?_eq_none hok
  · have hpackets := congrArg packetsOf hitems
    rwa [packetsOf_stamp, packetsOf_map_ok] at hpackets

/-- **The framer is the reference parser of the wire format.** Whatever a fresh framer is fed,
it finds no error and leaves nothing unread; its packets and the bytes that it holds are a
framing of what came, the only one up to receipt times, and the expected length is that of the
packet in progress. Conversely, packets read from frames come back from their bytes in a row. -/
theorem feed_framing (wire : List UInt8) :
    (∃ (packets : List Packet) (framer : Framer),
      ({} : Framer).feed time wire = (packets.map .ok, framer, []) ∧
      Framing wire packets framer.held ∧
      framer.held = wire.drop (wire.length - framer.buffered) ∧
      (∀ p ∈ packets, p.time = time) ∧
      (framer.buffered < headerLength ∧ framer.expected? = none ∨
        ∃ (header : Header) (payload : List UInt8), framer.held = header.toBytes ++ payload ∧
          framer.buffered < header.frameLength ∧
          framer.expected? = some header.frameLength) ∧
      ∀ others rest, Framing wire others rest →
        others.map Packet.untimed = packets.map Packet.untimed ∧ rest = framer.held) ∧
    ∀ packets : List Packet, (∀ p ∈ packets, ∃ frame t, Packet.ofFrame frame t = .ok p) →
      ({} : Framer).feed time (packets.flatMap Packet.toBytes) =
        (packets.map (fun p => .ok (p.stamped time)), {}, []) := by
  constructor
  · obtain ⟨packets, tail, hframing, htimes⟩ := exists_framing time wire
    have hstamp : ∀ p ∈ packets, p.stamped time = p := fun p hp => by
      rw [← htimes p hp]
      rfl
    refine ⟨packets, { held := tail }, ?_, hframing, ?_, htimes, expected_of_framing hframing,
      fun others rest hother => framing_unique hframing hother⟩
    · rw [feed_of_framing time hframing,
        List.map_congr_left fun p hp => congrArg Except.ok (hstamp p hp)]
    · rw [← hframing.bytes, buffered, List.length_append, Nat.add_sub_cancel, List.drop_left]
  · intro packets hread
    have hwf : ∀ p ∈ packets, p.WellFormed := fun p hp => by
      obtain ⟨frame, t, h⟩ := hread p hp
      exact (Packet.toBytes_of_ofFrame h).2.1
    exact feed_of_framing time (framing_of_wellFormed hwf)

/-- An event and the value of one car. -/
theorem feed_framing_event_and_value :
    ({} : Framer).feed .epoch [0x20, 0x00, 0x21, 0x10, 0x37] =
      ([.ok (.assemble ⟨0x20, 0x00⟩ [] .epoch), .ok (.assemble ⟨0x21, 0x10⟩ [0x37] .epoch)],
        {}, []) :=
  (feed_framing .epoch []).2
    [.assemble ⟨0x20, 0x00⟩ [] .epoch, .assemble ⟨0x21, 0x10⟩ [0x37] .epoch]
    (List.forall_mem_cons.2 ⟨⟨[0x20, 0x00], .epoch, rfl⟩,
      List.forall_mem_singleton.2 ⟨[0x21, 0x10, 0x37], .epoch, rfl⟩⟩)

end Framer

end TimingFeed
