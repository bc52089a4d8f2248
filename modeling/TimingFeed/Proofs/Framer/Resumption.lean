import TimingFeed.Proofs.Framer.Calls

/-!
# Readings that are given up

A chunk that is read on demand can be given up between two packets. Main statement:
`nextUpTo_resumed`. The framer and the bytes that were not read yet are all there is to know: the
packets so far, what the framer holds and what was not read are the bytes that came, and feeding
the rest gives what the reading would have given.

* `nextUpTo_packets`: what is left after some packets is a reading of the rest, from its start;
* `nextUpTo_error`: an error is the last item, and the framer holds the header that caused it;
* `feed_of_packets`: taking a chunk is reading some packets of it and taking the rest.
-/

namespace TimingFeed

namespace Reading

variable {f : Framer} {time : Instant} {chunk : List UInt8} {packets : List Packet}

/-- After packets only, what is left is a reading of the rest, and the reading goes on with it. -/
theorem nextUpTo_packets
    (h : ((start f time chunk).nextUpTo packets.length).1 = packets.map .ok) :
    ∃ g rest,
      (start f time chunk).nextUpTo packets.length = (packets.map .ok, start g time rest, false) ∧
      ∀ n, (start f time chunk).nextUpTo (packets.length + n) =
        (packets.map .ok ++ ((start g time rest).nextUpTo n).1,
          ((start g time rest).nextUpTo n).2) := by
  induction packets generalizing f chunk with
  | nil => exact ⟨f, chunk, rfl, fun n => by simp⟩
  | cons p packets ih =>
    rw [List.length_cons] at h ⊢
    rcases hpull : f.pull time chunk with ⟨_ | e | q, g, rest⟩
    · rw [nextUpTo_of_pull_none hpull] at h
      cases h
    · rw [nextUpTo_of_pull_error hpull] at h
      cases h
    · rw [nextUpTo_of_pull_ok hpull, List.map_cons] at h
      obtain ⟨hitem, hlater⟩ := List.cons_eq_cons.1 h
      cases hitem
      obtain ⟨last, unread, hread, hmore⟩ := ih hlater
      refine ⟨last, unread, ?_, fun n => ?_⟩
      · rw [nextUpTo_of_pull_ok hpull, hread]
        rfl
      · rw [Nat.add_right_comm, nextUpTo_of_pull_ok hpull, hmore]
        rfl

/-- Taking a chunk is reading some packets of it and taking the rest. -/
theorem feed_of_packets
    (h : ((start f time chunk).nextUpTo packets.length).1 = packets.map .ok) :
    ∃ g rest,
      (start f time chunk).nextUpTo packets.length = (packets.map .ok, start g time rest, false) ∧
      f.feed time chunk = (packets.map .ok ++ (g.feed time rest).1, (g.feed time rest).2) := by
  obtain ⟨g, rest, hread, hmore⟩ := nextUpTo_packets h
  refine ⟨g, rest, hread, ?_⟩
  -- Both are read to their ends.
  have hchunk := f.length_feed_lt time chunk
  have hlater := g.length_feed_lt time rest
  have hsame := hmore (chunk.length + rest.length + 2)
  rw [nextUpTo_start time f chunk (by omega), nextUpTo_start time g rest (by omega)] at hsame
  simp only [Prod.mk.injEq, Reading.mk.injEq] at hsame
  exact Prod.ext hsame.1 (Prod.ext hsame.2.1.1 hsame.2.1.2.2.1)

/-- An error comes from a header over the limit, which the framer holds then; it is the last
item. -/
theorem nextUpTo_error (hf : f.Regular) (hsound : f.poisoned = false) {n : Nat} {e : FrameError}
    (h : .error e ∈ ((start f time chunk).nextUpTo n).1) :
    ∃ (packets : List Packet) (header : Header) (unread : List UInt8),
      ((start f time chunk).nextUpTo n).1 = packets.map .ok ++ [.error e] ∧
      ((start f time chunk).nextUpTo n).2.1 =
        { framer := { f with held := header.toBytes, poisoned := true }, time, unread,
          ended := true } ∧
      f.limit < header.payloadLength ∧
      e = .lengthExceedsMaximum header.car header.code header.payloadLength f.limit := by
  induction n generalizing f chunk with
  | zero => simp [nextUpTo] at h
  | succ n ih =>
    have hpulls := Framer.pulls_pull hf.intact time chunk
    rcases hpull : f.pull time chunk with ⟨_ | cause | p, g, rest⟩ <;> rw [hpull] at hpulls <;>
      dsimp only at hpulls
    · simp [nextUpTo_of_pull_none hpull] at h
    · rw [nextUpTo_of_pull_error hpull] at h ⊢
      cases List.mem_singleton.1 h
      cases hpulls with
      | refused poisoned => rw [hsound] at poisoned; cases poisoned
      | overLimit _ _ _ exceeds => exact ⟨[], _, rest, rfl, rfl, exceeds, rfl⟩
    · rw [nextUpTo_of_pull_ok hpull] at h ⊢
      have hlater : .error e ∈ ((start g time rest).nextUpTo n).1 := by simpa using h
      have hg : g = { f with held := [] } := by cases hpulls; rfl
      obtain ⟨packets, header, unread, hitems, hlast, hover, he⟩ :=
        ih (hpulls.regular hf) (hg ▸ hsound) hlater
      subst hg
      exact ⟨p :: packets, header, unread, by rw [hitems]; rfl, hlast, hover, he⟩

/-- **A reading that was given up can be resumed.** A framer without an error is reached by any
calls, and some packets of a chunk are read. The bytes that it held and those of the chunk are then
those of the packets, those that it holds, and those that were not read. Feeding the latter, and
any chunks after them, gives what the reading would have given to its end, and these chunks after
it; with the packets before it, that is what the whole chunk gives. A reading that meets an error
ends with it, and the bytes are accounted for in the same way: the framer holds the header. -/
theorem nextUpTo_resumed (limit : Nat) (calls : List Framer.Call) (time : Instant)
    (chunk : List UInt8)
    (hsound : ((Framer.withLimit limit).answerAll calls).2.poisoned = false) :
    let f := ((Framer.withLimit limit).answerAll calls).2
    (∀ packets : List Packet,
      ((start f time chunk).nextUpTo packets.length).1 = packets.map .ok →
      let r := ((start f time chunk).nextUpTo packets.length).2.1
      let (items, s, ended) := r.drain
      f.held ++ chunk = packets.flatMap Packet.toBytes ++ r.framer.held ++ r.unread ∧
      ended = true ∧ r.framer.feed time r.unread = (items, s.framer, s.unread) ∧
      ∀ chunks,
        let resumed := r.framer.feedEach ((time, r.unread) :: chunks)
        resumed = (items ++ (s.framer.feedEach chunks).1, (s.framer.feedEach chunks).2) ∧
        f.feedEach ((time, chunk) :: chunks) = (packets.map .ok ++ resumed.1, resumed.2)) ∧
    ∀ n e, .error e ∈ ((start f time chunk).nextUpTo n).1 →
      let (items, s, _) := (start f time chunk).nextUpTo n
      ∃ (packets : List Packet) (header : Header), items = packets.map .ok ++ [.error e] ∧
        s.ended = true ∧ s.framer.held = header.toBytes ∧ f.limit < header.payloadLength ∧
        f.held ++ chunk = packets.flatMap Packet.toBytes ++ s.framer.held ++ s.unread := by
  intro f
  have hregular : f.Regular := (Framer.leaves_answerAll (Framer.regular_withLimit limit) calls).1
  constructor
  · intro packets hpackets
    have hbytes := (Framer.pullsAll_nextUpTo hregular time chunk packets.length).bytes_eq
    obtain ⟨g, rest, hread, hfeed⟩ := feed_of_packets hpackets
    rw [hread] at hbytes ⊢
    simp only [Framer.drain_start]
    refine ⟨by simpa [wireOf] using hbytes, trivial, rfl, fun chunks => ⟨rfl, ?_⟩⟩
    rw [Framer.feedEach_cons, hfeed, List.append_assoc]
    rfl
  · intro n e he
    have hbytes := (Framer.pullsAll_nextUpTo hregular time chunk n).bytes_eq
    obtain ⟨packets, header, unread, hitems, hlast, hover, -⟩ :=
      nextUpTo_error hregular hsound he
    refine ⟨packets, header, hitems, ?_⟩
    simp only [hlast] at hbytes ⊢
    exact ⟨trivial, trivial, hover, by simpa [wireOf, hitems] using hbytes⟩

/-- Half a header is held; then a notice that fits, an event and a notice over the limit come. Given
up after the first notice, and read to the error. -/
theorem nextUpTo_resumed_cutNotice :
    let f := ((Framer.withLimit 4).answerAll [.feed .epoch [0xC0]]).2
    let chunk : List UInt8 := [0x06, 1, 2, 3, 0x20, 0x00, 0xC0, 0x0A, 9]
    let notice : Packet := .assemble ⟨0xC0, 0x06⟩ [1, 2, 3] .epoch
    let event : Packet := .assemble ⟨0x20, 0x00⟩ [] .epoch
    let cause : FrameError := .lengthExceedsMaximum 0 6 5 4
    f.poisoned = false ∧
      ((start f .epoch chunk).nextUpTo 1).1 = [.ok notice] ∧
      f.held ++ chunk = [notice].flatMap Packet.toBytes ++ [] ++ [0x20, 0x00, 0xC0, 0x0A, 9] ∧
      ((start f .epoch chunk).nextUpTo 3).1 = [.ok notice, .ok event, .error cause] ∧
      ∃ (packets : List Packet) (header : Header),
        ((start f .epoch chunk).nextUpTo 3).1 = packets.map .ok ++ [.error cause] ∧
        f.held ++ chunk = packets.flatMap Packet.toBytes ++ header.toBytes ++ [9] := by
  intro f chunk notice event cause
  have hitems : ((start f .epoch chunk).nextUpTo 3).1 = [.ok notice, .ok event, .error cause] := rfl
  obtain ⟨hgivenUp, herror⟩ := nextUpTo_resumed 4 [.feed .epoch [0xC0]] .epoch chunk rfl
  obtain ⟨packets, header, hlast, -, hheld, -, hbytes⟩ := herror 3 cause (hitems ▸ by simp)
  exact ⟨rfl, rfl, (hgivenUp [notice] rfl).1, hitems, packets, header, hlast, hheld ▸ hbytes⟩

end Reading

end TimingFeed
