import TimingFeed.Proofs.Cache.Contents
import TimingFeed.Proofs.Decoder.Recording

/-!
# Replaying a loaded cache

Loaded packets are taken from a file as they stand there, so what they hold need not be what their
headers announce. Main statement: `replay_loaded`. A loaded cache is framed again as the same
packets exactly if every stored packet has the payload length and inline data of its header, as
all have that were saved from such packets.

* `Packet.ofFrame_toBytes_iff`: a packet is the one of its own bytes exactly if it is well-formed;
* `Framer.feed_replay_iff`: so are several, one after the other, exactly if all are.
-/

namespace TimingFeed

/-- A packet is read back from its own bytes exactly if it is well-formed. -/
theorem Packet.ofFrame_toBytes_iff {p : Packet} :
    ofFrame p.toBytes p.time = .ok p ↔ p.WellFormed :=
  ⟨fun h => (toBytes_of_ofFrame h).2.1, ofFrame_toBytes⟩

/-- Whether a packet is well-formed does not depend on its receipt time. -/
theorem Packet.wellFormed_of_untimed_eq {p q : Packet} (h : q.untimed = p.untimed)
    (hq : q.WellFormed) : p.WellFormed := by
  have huntimed : q.untimed.WellFormed := hq
  rw [h] at huntimed
  exact huntimed

/-- **Packets come back from their bytes in a row exactly if all of them are well-formed.** -/
theorem Framer.feed_replay_iff (time : Instant) (packets : List Packet) :
    (∃ received : List Packet,
      ({} : Framer).feed time (packets.flatMap Packet.toBytes) = (received.map .ok, {}, []) ∧
        received.map Packet.untimed = packets.map Packet.untimed) ↔
      ∀ p ∈ packets, p.WellFormed := by
  constructor
  · rintro ⟨received, hfeed, hsame⟩ p hp
    -- Whatever the bytes are, the framer gives well-formed packets only.
    obtain ⟨found, tail, hframing, -⟩ := exists_framing time (packets.flatMap Packet.toBytes)
    rw [feed_of_framing time hframing] at hfeed
    have hreceived := congrArg (fun run => packetsOf run.1) hfeed
    simp only [packetsOf_map_ok, packetsOf_packets] at hreceived
    subst hreceived
    have hmem : p.untimed ∈ packets.map Packet.untimed := List.mem_map_of_mem hp
    rw [← hsame, List.map_map] at hmem
    obtain ⟨q, hq, hqp⟩ := List.mem_map.1 hmem
    exact Packet.wellFormed_of_untimed_eq hqp (hframing.wellFormed q hq)
  · intro hwf
    refine ⟨packets.map (·.stamped time), ?_, by rw [List.map_map]; rfl⟩
    rw [feed_of_framing time (framing_of_wellFormed hwf), List.map_map]
    rfl

namespace PacketCache

/-- Every packet is the one that its own bytes frame. -/
def Framed (c : PacketCache) : Prop :=
  ∀ p ∈ c.toList, Packet.ofFrame p.toBytes p.time = .ok p

instance (c : PacketCache) : Decidable c.Framed :=
  inferInstanceAs (Decidable (∀ p ∈ c.toList, _))

theorem framed_iff {c : PacketCache} : c.Framed ↔ ∀ p ∈ c.toList, p.WellFormed :=
  forall₂_congr fun _ _ => Packet.ofFrame_toBytes_iff

/-- **When a loaded cache can be replayed.** Let a cache be loaded from any file. Its packets are
those that their own bytes frame exactly if the stored packets have the payload lengths and inline
data of their headers. Exactly then the bytes of the packets, one after the other as an encoder
writes them, are framed as the same packets, receipt times apart, and nothing is left over. The
file of a cache that was saved with such packets, whatever follows it, is loaded as the same
cache. -/
theorem replay_loaded {c : PacketCache} {bytes : List UInt8} (h : load (some bytes) = .ok c)
    (time : Instant) :
    (∃ (rs : List StoredPacket) (rest : List UInt8), (∀ r ∈ rs, r.Fits) ∧
      bytes = StoredPacket.file rs ++ rest ∧ c = ofList (rs.map StoredPacket.packet) ∧
      (c.Framed ↔ ∀ r ∈ rs, r.payload.length = r.header.payloadLength ∧ r.data = r.header.data)) ∧
    c.toList.foldl (fun written p => encodePacket p written) [] =
      c.toList.flatMap Packet.toBytes ∧
    ((∃ received : List Packet,
      ({} : Framer).feed time (c.toList.flatMap Packet.toBytes) = (received.map .ok, {}, []) ∧
        received.map Packet.untimed = c.toList.map Packet.untimed) ↔ c.Framed) ∧
    ∀ (d : PacketCache) (saved more : List UInt8), d.Addressable → d.save true = .ok saved →
      bytes = saved ++ more → d.Framed → c = d ∧ c.Framed := by
  refine ⟨?_, Decoder.foldl_encodePacket _ _, ?_, ?_⟩
  · obtain ⟨rs, rest, -, hfits, hbytes, rfl⟩ := load_eq_ok_iff.1 h
    exact ⟨rs, rest, hfits, hbytes, rfl, framed_iff.trans List.forall_mem_map⟩
  · rw [framed_iff]
    exact Framer.feed_replay_iff time c.toList
  · rintro d saved more hd hsave rfl hframed
    obtain ⟨htimes, rfl⟩ := save_eq_ok_iff.1 hsave
    have hload : load (some (d.file ++ more)) = .ok d := decode_file htimes hd more
    rw [hload] at h
    cases h
    exact ⟨rfl, hframed⟩

/-- A notice that was stored with one byte of the three that its header announces. -/
def shortNotice : StoredPacket := ⟨⟨0xC0, 0x06⟩, 0, 0, 0, [9]⟩

/-- It is loaded, but with a packet behind it its bytes are framed as something else. -/
theorem replay_loaded_shortNotice :
    let rs := [shortNotice, ⟨⟨0x05, 0x08⟩, 4, 1, 0, []⟩]
    let c := ofList (rs.map StoredPacket.packet)
    load (some (StoredPacket.file rs)) = .ok c ∧
      ¬ ∃ received : List Packet,
        ({} : Framer).feed .epoch (c.toList.flatMap Packet.toBytes) = (received.map .ok, {}, []) ∧
          received.map Packet.untimed = c.toList.map Packet.untimed := by
  intro rs c
  have hload : load (some (StoredPacket.file rs)) = .ok c := by decide +kernel
  exact ⟨hload, fun hreplay => absurd ((replay_loaded hload .epoch).2.2.1.1 hreplay) (by decide)⟩

/-- A file is loaded although a packet in it does not have the length that its header announces. -/
theorem loads_shortNotice :
    ¬ ∀ (bytes : List UInt8) (c : PacketCache), load (some bytes) = .ok c →
      ∀ p ∈ c.toList, Packet.ofFrame p.toBytes p.time = .ok p := by
  intro h
  have hload : load (some (StoredPacket.file [shortNotice])) =
      .ok (ofList [shortNotice.packet]) := by decide +kernel
  exact absurd (h _ _ hload shortNotice.packet (by decide)) (by decide)

end PacketCache

end TimingFeed
