import TimingFeed.Proofs.Connection.Polls
import TimingFeed.Proofs.Decoder.Conservation
import TimingFeed.Proofs.Framer.Reading

/-!
# Recorded streams

A recording is read in pieces and decoded until its end. Main statement: `recording_framing`.
However it is cut, it gives the packets of its framing, and an error after them exactly if it
stops inside a packet.

* `decodeUpTo_decode`: decoding until nothing is left is one run of the framer over the source
  buffer, and the number of its turns is enough;
* `decodeAll_decodeEnd`: at the end only a packet in progress is left to tell of;
* `recording_of_framing`: what the pieces that are still to come give.
-/

namespace TimingFeed

namespace Framer

/-- A run gives an item at most for each byte. -/
theorem length_pushAll_le (time : Instant) (f : Framer) (bytes : List UInt8) :
    (pushAll time f bytes).1.length ≤ bytes.length := by
  fun_induction pushAll time f bytes with
  | case1 => exact Nat.le_refl 0
  | case2 f b rest g hpush ih => exact Nat.le_succ_of_le ih
  | case3 f b rest g p hpush r ih => exact Nat.succ_le_succ ih
  | case4 f b rest g e hpush => simp

end Framer

namespace Decoder

variable (time : Instant) {f : Framer}

/-- **Decoding until nothing is left is a run of the framer.** It gives the items of the run and
the framer after it; without an error nothing stays in the source buffer. -/
theorem decodeUpTo_decode (hf : f.poisoned = false) (source : List UInt8) {n : Nat}
    (hn : (Framer.pushAll time f source).1.length < n) :
    ∃ left, decodeUpTo (·.decode time) n ⟨f, source⟩ =
        ((Framer.pushAll time f source).1.map (·.mapError .framing),
          ⟨(Framer.pushAll time f source).2.1, left⟩,
          (firstError? (Framer.pushAll time f source).1).isNone) ∧
      (firstError? (Framer.pushAll time f source).1 = none → left = []) := by
  induction n generalizing f source with
  | zero => omega
  | succ n ih =>
    have hpull : f.pull time source = Framer.pushUntil time f source := if_neg (by simp [hf])
    have hrun := Framer.pushAll_eq_pushUntil time f source
    have hread : firstError? (Framer.pushAll time f source).1 = none → _ :=
      Framer.pushAll_of_ok time f
    rcases huntil : Framer.pushUntil time f source with ⟨_ | e | p, g, rest⟩ <;>
      rw [huntil] at hrun hpull <;> dsimp only at hrun <;> rw [hrun] at hn hread ⊢
    · -- Nothing more is there, and the run has read all bytes.
      obtain rfl : rest = [] := congrArg Prod.snd (hread rfl)
      exact ⟨[], by simp [decodeUpTo, decode_of_pull_none hpull], fun _ => rfl⟩
    · exact ⟨source, by simp [decodeUpTo, decode_of_pull_error hpull, Except.mapError], nofun⟩
    · have hg := (Framer.poisoned_pushUntil_of_ok time f huntil).trans hf
      obtain ⟨left, hleft, hnil⟩ := ih hg rest (Nat.lt_of_succ_lt_succ hn)
      refine ⟨left, ?_, hnil⟩
      simp only [decodeUpTo, decode_of_pull_ok hpull, hleft]
      rfl

/-- The packets of a run without an error are decoded in one go. -/
theorem decodeAll_decode (hf : f.poisoned = false) {source : List UInt8} {packets : List Packet}
    {g : Framer} (h : f.feed time source = (packets.map .ok, g, [])) :
    decodeAll (·.decode time) ⟨f, source⟩ = (packets.map .ok, ⟨g, []⟩, true) := by
  rw [Framer.feed_of_sound time hf] at h
  obtain ⟨left, hleft, hnil⟩ := decodeUpTo_decode time hf source
    (Nat.lt_succ_of_le (Framer.length_pushAll_le time f source))
  rw [h] at hleft hnil
  rw [firstError?_packets] at hleft hnil
  rw [decodeAll, hleft, hnil rfl, List.map_map]
  rfl

/-- What a recording ends with: an error if its last bytes are not a whole packet. -/
def truncation (tail : List UInt8) : List (Except FeedError Packet) :=
  if tail = [] then [] else [.error .connectionClosed]

/-- When no more bytes can arrive, only the packet in progress is left to tell of. -/
theorem decodeAll_decodeEnd (hf : f.poisoned = false) :
    (decodeAll (·.decodeEnd time) ⟨f, []⟩).1 = truncation f.held := by
  have hpull : f.pull time [] = (none, f, []) := if_neg (by simp [hf])
  by_cases hheld : f.held = [] <;>
    simp [decodeAll, decodeUpTo, decodeEnd, decode_of_pull_none hpull, Framer.buffered, truncation,
      hheld]

/-! ### Pieces -/

/-- A piece that is not empty is decoded, and without an error the recording goes on. -/
theorem recording_bytes {piece : List UInt8} (h : piece ≠ []) (d : Decoder)
    (later : List Arrival) :
    recording time d (.bytes piece :: later) =
      match (d.append piece).decodeAll (·.decode time) with
      | (items, d, true) => items ++ recording time d later
      | (items, _, false) => items := by
  obtain ⟨b, piece, rfl⟩ := List.exists_cons_of_ne_nil h
  rfl

/-- What is left of a recording goes on with the framing of what came. -/
theorem recording_of_framing {wire tail : List UInt8} {packets : List Packet}
    (h : Framing wire packets tail) {pieces : List (List UInt8)}
    (hpieces : ∀ piece ∈ pieces, piece ≠ []) {last : Arrival} (hlast : last.IsEnd)
    (unread : List Arrival) :
    ∃ later rest, Framing (wire ++ pieces.flatten) (packets ++ later) rest ∧
      recording time { framer := { held := tail } } (pieces.map .bytes ++ last :: unread) =
        later.map .ok ++ truncation rest := by
  induction pieces generalizing wire tail packets with
  | nil =>
    refine ⟨[], tail, by simpa using h, ?_⟩
    have hend := decodeAll_decodeEnd time (f := { held := tail }) rfl
    rcases hlast with rfl | rfl <;> exact hend
  | cons piece pieces ih =>
    rw [List.forall_mem_cons] at hpieces
    obtain ⟨later, rest, hlater, hfeed⟩ := Framer.feed_of_tail time h piece
    obtain ⟨further, tail', hfurther, hrecording⟩ := ih hlater hpieces.2
    refine ⟨later ++ further, tail', by simpa using hfurther, ?_⟩
    have hdecode := decodeAll_decode time (f := { held := tail }) rfl hfeed
    rw [List.map_cons, List.cons_append, recording_bytes time hpieces.1]
    simp only [append, List.nil_append, hdecode, hrecording]
    rw [List.map_append, List.append_assoc]

/-- Packets that are written one after the other take their bytes in order. -/
theorem foldl_encodePacket (packets : List Packet) (bytes : List UInt8) :
    packets.foldl (fun written p => encodePacket p written) bytes =
      bytes ++ packets.flatMap Packet.toBytes := by
  induction packets generalizing bytes with
  | nil => simp
  | cons p packets ih =>
    rw [List.foldl_cons, ih, encodePacket, List.flatMap_cons, List.append_assoc]

/-- **A recording gives the packets of its bytes and tells whether it was cut off.** Its bytes come
in pieces of any size, none of them empty, and then it ends. The items are the packets of the
framing of all bytes, the only one up to receipt times, and after them an error exactly if a tail
that is not a whole packet is left; nothing is read after the end. In particular, packets that were
read from frames and written one after the other come back, receipt times apart, without an
error. -/
theorem recording_framing {pieces : List (List UInt8)} (hpieces : ∀ piece ∈ pieces, piece ≠ [])
    {last : Arrival} (hlast : last.IsEnd) (unread : List Arrival) :
    let items := recording time {} (pieces.map .bytes ++ last :: unread)
    (∃ packets tail, Framing pieces.flatten packets tail ∧
      items = packets.map .ok ++ (if tail = [] then [] else [.error .connectionClosed]) ∧
      ∀ others rest, Framing pieces.flatten others rest →
        others.map Packet.untimed = packets.map Packet.untimed ∧ rest = tail) ∧
    ∀ written : List Packet, (∀ p ∈ written, ∃ frame t, Packet.ofFrame frame t = .ok p) →
      pieces.flatten = written.foldl (fun bytes p => encodePacket p bytes) [] →
      ∃ received : List Packet, items = received.map .ok ∧
        received.map Packet.untimed = written.map Packet.untimed := by
  intro items
  have hstart : Framing [] [] [] := framing_of_wellFormed (List.forall_mem_nil _)
  obtain ⟨packets, tail, hframing, hitems⟩ :=
    recording_of_framing time hstart hpieces hlast unread
  refine ⟨⟨packets, tail, hframing, hitems, fun _ _ => Framer.framing_unique hframing⟩, ?_⟩
  intro written hread hbytes
  have hwf : ∀ p ∈ written, p.WellFormed := fun p hp => by
    obtain ⟨frame, t, h⟩ := hread p hp
    exact (Packet.toBytes_of_ofFrame h).2.1
  -- What was written is a framing of the bytes without a tail, so it is the one that was found.
  have hwritten := framing_of_wellFormed hwf
  rw [foldl_encodePacket, List.nil_append] at hbytes
  rw [← hbytes] at hwritten
  obtain ⟨hsame, rfl⟩ := Framer.framing_unique hframing hwritten
  exact ⟨packets, hitems.trans (List.append_nil _), hsame.symm⟩

/-- An event and the value of one car, cut within both headers. -/
theorem recording_framing_event_and_value :
    ∃ received : List Packet,
      recording .epoch {} [.bytes [0x20], .bytes [0x00, 0x21], .bytes [0x10, 0x37], .endOfStream] =
          received.map .ok ∧
        received.map Packet.untimed =
          [.assemble ⟨0x20, 0x00⟩ [] .epoch, .assemble ⟨0x21, 0x10⟩ [0x37] .epoch] :=
  (@recording_framing .epoch [[0x20], [0x00, 0x21], [0x10, 0x37]] (by decide) .endOfStream
      (.inl rfl) []).2
    [.assemble ⟨0x20, 0x00⟩ [] .epoch, .assemble ⟨0x21, 0x10⟩ [0x37] .epoch]
    (List.forall_mem_cons.2 ⟨⟨[0x20, 0x00], .epoch, rfl⟩,
      List.forall_mem_singleton.2 ⟨[0x21, 0x10, 0x37], .epoch, rfl⟩⟩)
    rfl

end Decoder

end TimingFeed
