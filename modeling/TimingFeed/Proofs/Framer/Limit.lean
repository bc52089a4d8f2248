import TimingFeed.Proofs.Framer.Resumption

/-!
# What a payload limit does

A framer with a limit gives up a stream at the first header that announces too much. Main
statement: `feedEach_withLimit`. Its packets are those of the framer without a limit up to the
first one over it, with the same receipt times; it fails exactly if the header of such a packet
follows them, complete or not, and it reads no byte after that header.

* `feed_rejected` and `exists_rejection`: where an error comes from, in one chunk and in several;
* `packetsOf_feedEach_isPrefix`: a larger limit only adds packets behind;
* `framing_of_limited`: the packets and what follows them, as part of the framing of the stream.
-/

namespace TimingFeed

@[simp] theorem firstError?_append (items more : List FramedItem) :
    firstError? (items ++ more) = (firstError? items).or (firstError? more) :=
  List.findSome?_append

theorem packetsOf_replicate_error (n : Nat) (e : FrameError) :
    packetsOf (List.replicate n (.error e)) = [] := by
  induction n with
  | zero => rfl
  | succ n ih => exact ih

theorem exists_error_mem {items : List FramedItem} (h : firstError? items ≠ none) :
    ∃ e, .error e ∈ items := by
  obtain ⟨e, he⟩ := Option.ne_none_iff_exists'.1 h
  obtain ⟨item, hitem, hcause⟩ := List.exists_of_findSome?_eq_some he
  cases item with
  | ok p => cases hcause
  | error cause => exact ⟨cause, hitem⟩

namespace Framer

/-- The error of a framer that does not accept a header. -/
abbrev rejection (header : Header) (limit : Nat) : FrameError :=
  .lengthExceedsMaximum header.car header.code header.payloadLength limit

section Chunks

variable {f : Framer}

/-- Chunks keep a framer regular, and their packets are whole and within the limit. -/
theorem feedEach_packets (hf : f.Regular) (chunks : List (Instant × List UInt8)) :
    (f.feedEach chunks).2.Regular ∧ (f.feedEach chunks).2.limit = f.limit ∧
      ∀ p ∈ packetsOf (f.feedEach chunks).1, p.WellFormed ∧ p.payload.length ≤ f.limit := by
  induction chunks generalizing f with
  | nil => exact ⟨hf, rfl, nofun⟩
  | cons chunk chunks ih =>
    obtain ⟨t, bytes⟩ := chunk
    have hpulls := pullsAll_feed hf t bytes
    obtain ⟨hregular, hlimit, hpackets⟩ := ih (hpulls.regular hf)
    rw [hpulls.limit_eq] at hlimit hpackets
    rw [feedEach_cons, packetsOf_append]
    exact ⟨hregular, hlimit, List.forall_mem_append.2 ⟨hpulls.packets, hpackets⟩⟩

/-- A chunk without an error leaves a sound framer. -/
theorem poisoned_feed_of_ok (hsound : f.poisoned = false) {t : Instant} {bytes : List UInt8}
    (h : firstError? (f.feed t bytes).1 = none) : (f.feed t bytes).2.1.poisoned = false := by
  rw [feed_of_sound t hsound] at h ⊢
  exact (poisoned_pushAll_of_ok f t h).trans hsound

theorem feed_bytes (hsound : f.poisoned = false) {t : Instant} {bytes : List UInt8}
    (h : firstError? (f.feed t bytes).1 = none) :
    f.held ++ bytes = wireOf (f.feed t bytes).1 ++ (f.feed t bytes).2.1.held := by
  rw [feed_of_sound t hsound] at h ⊢
  exact pushAll_bytes t f h

/-- Without an error no byte is lost over several chunks either. -/
theorem feedEach_bytes (hsound : f.poisoned = false) {chunks : List (Instant × List UInt8)}
    (h : firstError? (f.feedEach chunks).1 = none) :
    (f.feedEach chunks).2.poisoned = false ∧
      f.held ++ chunks.flatMap (·.2) =
        wireOf (f.feedEach chunks).1 ++ (f.feedEach chunks).2.held := by
  induction chunks generalizing f with
  | nil => exact ⟨hsound, by simp⟩
  | cons chunk chunks ih =>
    obtain ⟨t, bytes⟩ := chunk
    rw [feedEach_cons, firstError?_append, Option.or_eq_none_iff] at h
    obtain ⟨hlast, hlater⟩ := ih (poisoned_feed_of_ok hsound h.1) h.2
    refine ⟨hlast, ?_⟩
    calc f.held ++ ((t, bytes) :: chunks).flatMap (·.2)
        = f.held ++ bytes ++ chunks.flatMap (·.2) := by simp
      _ = wireOf (f.feed t bytes).1 ++
            ((f.feed t bytes).2.1.held ++ chunks.flatMap (·.2)) := by
          rw [feed_bytes hsound h.1, List.append_assoc]
      _ = wireOf (f.feedEach ((t, bytes) :: chunks)).1 ++
            (f.feedEach ((t, bytes) :: chunks)).2.held := by
          rw [hlater, feedEach_cons, wireOf_append, List.append_assoc]

/-- An error of a chunk is its last item: there are the packets before it, the bytes up to the
header that is not accepted, and those behind it, which are not read. -/
theorem feed_rejected (hf : f.Regular) (hsound : f.poisoned = false) {t : Instant}
    {bytes : List UInt8} (h : firstError? (f.feed t bytes).1 ≠ none) :
    ∃ (packets : List Packet) (header : Header) (used unread : List UInt8),
      bytes = used ++ unread ∧
      f.feed t bytes = (packets.map .ok ++ [.error (rejection header f.limit)],
        { f with held := header.toBytes, poisoned := true }, unread) ∧
      f.limit < header.payloadLength ∧
      f.held ++ used = packets.flatMap Packet.toBytes ++ header.toBytes := by
  obtain ⟨e, he⟩ := exists_error_mem h
  have hpulls := pullsAll_feed hf t bytes
  -- The whole chunk is a reading with enough calls.
  have hdrain : (Reading.start f t bytes).nextUpTo (bytes.length + 2) = _ := f.drain_start t bytes
  have hread : .error e ∈ ((Reading.start f t bytes).nextUpTo (bytes.length + 2)).1 := by
    rw [hdrain]
    exact he
  obtain ⟨packets, header, unread, hitems, hlast, hover, rfl⟩ :=
    Reading.nextUpTo_error hf hsound hread
  rw [hdrain] at hitems hlast
  simp only [Reading.mk.injEq] at hlast hitems
  have hrun : f.feed t bytes = (packets.map .ok ++ [.error (rejection header f.limit)],
      { f with held := header.toBytes, poisoned := true }, unread) :=
    Prod.ext hitems (Prod.ext hlast.1 hlast.2.2.1)
  rw [hrun] at hpulls
  obtain ⟨used, rfl⟩ := hpulls.suffix
  have hbytes := hpulls.bytes_eq
  refine ⟨packets, header, used, unread, rfl, hrun, hover, ?_⟩
  simpa [wireOf, ← List.append_assoc] using hbytes

/-- After some chunks without an error a header is rejected: the chunk `used ++ unread` gives some
packets and then the error, and of its bytes those behind the header are not read. -/
structure Rejects (f : Framer) (header : Header) (before : List (Instant × List UInt8))
    (time : Instant) (used unread : List UInt8) : Prop where
  accepts : firstError? (f.feedEach before).1 = none
  exceeds : f.limit < header.payloadLength
  feeds : ∃ packets : List Packet, (f.feedEach before).2.feed time (used ++ unread) =
    (packets.map .ok ++ [.error (rejection header f.limit)],
      { limit := f.limit, held := header.toBytes, poisoned := true }, unread)

/-- An error among some chunks is the rejection of a header, which follows the packets. -/
theorem exists_rejection (hf : f.Regular) (hsound : f.poisoned = false)
    {chunks : List (Instant × List UInt8)} (h : firstError? (f.feedEach chunks).1 ≠ none) :
    ∃ header before time used unread after, chunks = before ++ (time, used ++ unread) :: after ∧
      f.Rejects header before time used unread ∧
      firstError? (f.feedEach chunks).1 = some (rejection header f.limit) ∧
      f.held ++ before.flatMap (·.2) ++ used =
        wireOf (f.feedEach chunks).1 ++ header.toBytes := by
  induction chunks generalizing f with
  | nil => exact absurd rfl h
  | cons chunk chunks ih =>
    obtain ⟨t, bytes⟩ := chunk
    by_cases hfirst : firstError? (f.feed t bytes).1 = none
    · -- The error is in a later chunk.
      have hpulls := pullsAll_feed hf t bytes
      rw [feedEach_cons, firstError?_append, hfirst, Option.none_or] at h
      obtain ⟨header, before, time, used, unread, after, rfl, ⟨haccepts, hover, hfeeds⟩, herror,
        hbytes⟩ := ih (hpulls.regular hf) (poisoned_feed_of_ok hsound hfirst) h
      rw [hpulls.limit_eq] at hover hfeeds herror
      refine ⟨header, (t, bytes) :: before, time, used, unread, after, rfl,
        ⟨?_, hover, hfeeds⟩, ?_, ?_⟩
      · rw [feedEach_cons, firstError?_append, hfirst, haccepts, Option.none_or]
      · rw [feedEach_cons, firstError?_append, hfirst, herror, Option.none_or]
      · rw [feedEach_cons, wireOf_append, List.append_assoc _ _ header.toBytes, ← hbytes,
          ← List.append_assoc, ← List.append_assoc, ← feed_bytes hsound hfirst]
        simp
    · obtain ⟨packets, header, used, unread, rfl, hrun, hover, hbytes⟩ :=
        feed_rejected hf hsound hfirst
      refine ⟨header, [], t, used, unread, chunks, rfl, ⟨rfl, hover, packets, hrun⟩, ?_, ?_⟩
      · rw [feedEach_cons, hrun]
        simp
      · rw [feedEach_cons, hrun, feedEach_of_poisoned rfl]
        simpa [wireOf, packetsOf_replicate_error] using hbytes

end Chunks

/-! ### A larger limit -/

section Relaxed

variable {f : Framer} {limit : Nat} (time : Instant)

/-- With a larger limit a byte does the same, unless it completes a header that is rejected. -/
theorem push_relaxed (hlimit : f.limit ≤ limit) {b : UInt8}
    (h : ∀ e, (f.push time b).2 ≠ some (.error e)) :
    ({ f with limit } : Framer).push time b =
      ({ (f.push time b).1 with limit }, (f.push time b).2) := by
  rcases short_or_header (f.held ++ [b]) with hs | ⟨header, payload, he⟩
  · rw [push_short time hs, push_short (f := { f with limit }) time hs]
  · rw [push_header time he] at h ⊢
    rw [push_header (f := { f with limit }) time he]
    by_cases hover : f.limit < header.payloadLength
    · exact absurd (by rw [if_pos hover]) (h (rejection header f.limit))
    · rw [if_neg hover, if_neg (show ¬ limit < header.payloadLength by omega)]
      split_ifs <;> rfl

/-- With a larger limit a chunk without an error gives the same. -/
theorem pushAll_relaxed (hlimit : f.limit ≤ limit) {bytes : List UInt8}
    (h : firstError? (pushAll time f bytes).1 = none) :
    pushAll time { f with limit } bytes =
      ((pushAll time f bytes).1, { (pushAll time f bytes).2.1 with limit }, []) := by
  fun_induction pushAll time f bytes with
  | case1 => rfl
  | case2 f b rest g hpush ih =>
    have hrelaxed := push_relaxed time hlimit (b := b) (by simp [hpush])
    rw [hpush] at hrelaxed
    rw [pushAll_cons_of_none time hrelaxed, ih ((eq_of_push_none time hpush) ▸ hlimit) h]
  | case3 f b rest g p hpush r ih =>
    have hrelaxed := push_relaxed time hlimit (b := b) (by simp [hpush])
    rw [hpush] at hrelaxed
    rw [pushAll_cons_of_ok time hrelaxed, ih ((eq_of_push_ok time hpush).1 ▸ hlimit) h]
  | case4 f b rest g e hpush => simp at h

/-- With a larger limit a chunk gives the same packets first. -/
theorem packetsOf_pushAll_isPrefix (hlimit : f.limit ≤ limit) (bytes : List UInt8) :
    packetsOf (pushAll time f bytes).1 <+: packetsOf (pushAll time { f with limit } bytes).1 := by
  fun_induction pushAll time f bytes with
  | case1 => exact List.prefix_refl _
  | case2 f b rest g hpush ih =>
    have hrelaxed := push_relaxed time hlimit (b := b) (by simp [hpush])
    rw [hpush] at hrelaxed
    rw [pushAll_cons_of_none time hrelaxed]
    exact ih ((eq_of_push_none time hpush) ▸ hlimit)
  | case3 f b rest g p hpush r ih =>
    have hrelaxed := push_relaxed time hlimit (b := b) (by simp [hpush])
    rw [hpush] at hrelaxed
    rw [pushAll_cons_of_ok time hrelaxed]
    exact List.cons_prefix_cons.2 ⟨rfl, ih ((eq_of_push_ok time hpush).1 ▸ hlimit)⟩
  | case4 => exact List.nil_prefix

/-- **A larger limit only adds packets behind,** over several chunks too. -/
theorem packetsOf_feedEach_isPrefix (hlimit : f.limit ≤ limit) (hsound : f.poisoned = false)
    (chunks : List (Instant × List UInt8)) :
    packetsOf (f.feedEach chunks).1 <+:
      packetsOf (({ f with limit } : Framer).feedEach chunks).1 := by
  induction chunks generalizing f with
  | nil => exact List.prefix_refl _
  | cons chunk chunks ih =>
    obtain ⟨t, bytes⟩ := chunk
    rw [feedEach_cons, feedEach_cons, packetsOf_append, packetsOf_append, feed_of_sound t hsound,
      feed_of_sound (f := { f with limit }) t hsound]
    by_cases hok : firstError? (pushAll t f bytes).1 = none
    · rw [pushAll_relaxed t hlimit hok, List.prefix_append_right_inj]
      -- Only what is held has changed.
      have hstate := congrArg Prod.fst (pushAll_of_ok t f hok)
      exact ih (Nat.le_trans (Nat.le_of_eq (congrArg Framer.limit hstate)) hlimit)
        ((congrArg Framer.poisoned hstate).trans hsound)
    · -- The chunks after the error give no packet.
      have hnone : packetsOf ((pushAll t f bytes).2.1.feedEach chunks).1 = [] := by
        rw [feedEach_of_poisoned (pushAll_of_error t f hok), packetsOf_replicate_error]
      rw [hnone, List.append_nil]
      exact (packetsOf_pushAll_isPrefix t hlimit bytes).trans (List.prefix_append _ _)

end Relaxed

/-! ### The packets of a limited framer -/

/-- Bytes that begin with no whole packet within the limit: their framing has none in front. -/
theorem exists_framing_over {limit : Nat} {bytes : List UInt8}
    (h : ∀ (header : Header) (payload : List UInt8), bytes = header.toBytes ++ payload →
      payload.length < header.payloadLength ∨ limit < header.payloadLength) :
    ∃ packets tail, Framing bytes packets tail ∧ ∀ p ∈ packets.head?, limit < p.payload.length := by
  obtain ⟨packets, tail, hframing, -⟩ := exists_framing .epoch bytes
  refine ⟨packets, tail, hframing, fun p hp => ?_⟩
  obtain ⟨later, rfl⟩ := List.head?_eq_some_iff.1 hp
  have hlength := (hframing.wellFormed p List.mem_cons_self).1
  have hbytes : bytes =
      p.header.toBytes ++ (p.payload ++ (later.flatMap Packet.toBytes ++ tail)) := by
    rw [← hframing.bytes, List.flatMap_cons, Packet.toBytes]
    simp only [List.append_assoc]
  rcases h _ _ hbytes with hshort | hover
  · rw [List.length_append] at hshort
    omega
  · rwa [hlength]

/-- **The packets of a limited framer begin the framing of the stream,** and the next one, if there
is one, is over the limit. -/
theorem framing_of_limited {f : Framer} (hf : f.Regular) (hsound : f.poisoned = false)
    (hheld : f.held = []) (chunks : List (Instant × List UInt8)) :
    ∃ others tail,
      Framing (chunks.flatMap (·.2)) (packetsOf (f.feedEach chunks).1 ++ others) tail ∧
        ∀ p ∈ others.head?, f.limit < p.payload.length := by
  obtain ⟨hregular, hlimit, hpackets⟩ := feedEach_packets hf chunks
  have hwhole := framing_of_wellFormed fun p hp => (hpackets p hp).1
  -- What stands behind the packets begins with none within the limit.
  suffices hrest : ∃ rest, chunks.flatMap (·.2) = wireOf (f.feedEach chunks).1 ++ rest ∧
      ∀ (header : Header) (payload : List UInt8), rest = header.toBytes ++ payload →
        payload.length < header.payloadLength ∨ f.limit < header.payloadLength by
    obtain ⟨rest, hwire, hover⟩ := hrest
    obtain ⟨others, tail, hframing, hhead⟩ := exists_framing_over hover
    exact ⟨others, tail, hwire ▸ hwhole.append hframing, hhead⟩
  by_cases hok : firstError? (f.feedEach chunks).1 = none
  · obtain ⟨hlast, hbytes⟩ := feedEach_bytes hsound hok
    rw [hheld, List.nil_append] at hbytes
    exact ⟨_, hbytes, fun header payload he => .inl (hregular.intact hlast header payload he).2⟩
  · obtain ⟨header, before, time, used, unread, after, rfl, hrejects, -, hbytes⟩ :=
      exists_rejection hf hsound hok
    rw [hheld, List.nil_append] at hbytes
    refine ⟨header.toBytes ++ (unread ++ after.flatMap (·.2)), ?_, fun other payload he => ?_⟩
    · rw [← List.append_assoc, ← hbytes]
      simp
    · obtain ⟨rfl, -⟩ := Header.toBytes_append_inj he
      exact .inr hrejects.exceeds

/-- Which packets come before the first one over a limit does not depend on their times. -/
theorem takeWhile_untimed (limit : Nat) (packets : List Packet) :
    (packets.takeWhile (·.payload.length ≤ limit)).map Packet.untimed =
      (packets.map Packet.untimed).takeWhile (·.payload.length ≤ limit) := by
  rw [List.takeWhile_map]
  rfl

theorem takeWhile_append_over {limit : Nat} {packets others : List Packet}
    (hfits : ∀ p ∈ packets, p.payload.length ≤ limit)
    (hover : ∀ p ∈ others.head?, limit < p.payload.length) :
    (packets ++ others).takeWhile (·.payload.length ≤ limit) = packets := by
  rw [List.takeWhile_append_of_pos (by simpa using hfits)]
  cases others with
  | nil => simp
  | cons p others => simp [hover p rfl]

/-- The packets of a limited framer are those without a limit up to the first one over it. -/
theorem packetsOf_withLimit (limit : Nat) (chunks : List (Instant × List UInt8)) :
    packetsOf ((withLimit limit).feedEach chunks).1 =
      (packetsOf (({} : Framer).feedEach chunks).1).takeWhile
        (·.payload.length ≤ min limit maxPayload) := by
  have hf := regular_withLimit limit
  obtain ⟨others, tail, hframing, hover⟩ := framing_of_limited hf rfl rfl chunks
  obtain ⟨-, -, hpackets⟩ := feedEach_packets hf chunks
  have hmore := packetsOf_feedEach_isPrefix hf.limit_le rfl chunks
  obtain ⟨received, hrun, huntimed⟩ := feedEach_of_framing hframing rfl
  change _ <+: packetsOf (({} : Framer).feedEach chunks).1 at hmore
  rw [hrun, packetsOf_packets] at hmore ⊢
  have hsplit := takeWhile_append_over (fun p hp => (hpackets p hp).2) hover
  have hsame : (received.takeWhile (·.payload.length ≤ min limit maxPayload)).map
        Packet.untimed =
      (packetsOf ((withLimit limit).feedEach chunks).1).map Packet.untimed := by
    rw [takeWhile_untimed, huntimed, ← takeWhile_untimed]
    exact congrArg (List.map Packet.untimed) hsplit
  -- Both begin the packets received, and they have the same length.
  have hlength := congrArg List.length hsame.symm
  rw [List.length_map, List.length_map] at hlength
  exact (List.prefix_of_prefix_length_le hmore (List.takeWhile_prefix _)
    (Nat.le_of_eq hlength)).eq_of_length hlength

/-- In other chunks the same bytes give the same packets at other times. -/
theorem packetsOf_of_same_bytes {chunks others : List (Instant × List UInt8)}
    (h : others.flatMap (·.2) = chunks.flatMap (·.2)) :
    (packetsOf (({} : Framer).feedEach others).1).map Packet.untimed =
      (packetsOf (({} : Framer).feedEach chunks).1).map Packet.untimed := by
  obtain ⟨packets, tail, hframing, -⟩ := exists_framing .epoch (chunks.flatMap (·.2))
  obtain ⟨received, hrun, huntimed⟩ := feedEach_of_framing hframing rfl
  obtain ⟨again, hother, hagain⟩ := feedEach_of_framing hframing h
  rw [hrun, hother, packetsOf_packets, packetsOf_packets, huntimed, hagain]

/-- Without an error the header that follows the packets, if there is one, is within the limit: it
is held. -/
theorem payloadLength_le_of_ok {f : Framer} (hf : f.Regular) (hsound : f.poisoned = false)
    (hheld : f.held = []) {chunks : List (Instant × List UInt8)}
    (hok : firstError? (f.feedEach chunks).1 = none) {header : Header} {rest : List UInt8}
    (hwire : chunks.flatMap (·.2) = wireOf (f.feedEach chunks).1 ++ header.toBytes ++ rest) :
    header.payloadLength ≤ f.limit := by
  obtain ⟨hregular, hlimit, -⟩ := feedEach_packets hf chunks
  obtain ⟨hlast, hbytes⟩ := feedEach_bytes hsound hok
  rw [hheld, List.nil_append, hwire, List.append_assoc, List.append_cancel_left_eq] at hbytes
  have hwithin := (hregular.intact hlast header rest hbytes.symm).1
  rwa [hlimit] at hwithin

/-- **A payload limit only cuts a stream short.** Take any chunks. The packets of a limited framer
are the longest beginning of those of a framer without a limit that is within the limit: with the
same times if it takes the same chunks, and else apart from the times. It fails exactly if these
packets are followed by a header that announces more. Then the error names this header and the
limit, and it comes in the chunk where the header is complete: after the packets of this chunk, with
all bytes behind the header unread, and the framer is poisoned. -/
theorem feedEach_withLimit (limit : Nat) (chunks : List (Instant × List UInt8)) :
    let most := min limit maxPayload
    let wire := chunks.flatMap (·.2)
    let items := ((withLimit limit).feedEach chunks).1
    let packets := (packetsOf (({} : Framer).feedEach chunks).1).takeWhile (·.payload.length ≤ most)
    packetsOf items = packets ∧
      (∀ others, others.flatMap (·.2) = wire →
        (packetsOf items).map Packet.untimed =
          ((packetsOf (({} : Framer).feedEach others).1).takeWhile
            (·.payload.length ≤ most)).map Packet.untimed) ∧
      (firstError? items ≠ none ↔ ∃ (header : Header) (rest : List UInt8),
        wire = packets.flatMap Packet.toBytes ++ header.toBytes ++ rest ∧
          most < header.payloadLength) ∧
      ∀ (header : Header) (rest : List UInt8),
        wire = packets.flatMap Packet.toBytes ++ header.toBytes ++ rest →
        most < header.payloadLength →
        firstError? items = some
          (.lengthExceedsMaximum header.car header.code header.payloadLength most) ∧
        ∃ before time used unread after, chunks = before ++ (time, used ++ unread) :: after ∧
          before.flatMap (·.2) ++ used = packets.flatMap Packet.toBytes ++ header.toBytes ∧
          (withLimit limit).Rejects header before time used unread := by
  intro most wire items packets
  have hf := regular_withLimit limit
  have hpackets : packetsOf items = packets := packetsOf_withLimit limit chunks
  have hrejected : firstError? items ≠ none → ∃ header before time used unread after,
      chunks = before ++ (time, used ++ unread) :: after ∧
      (withLimit limit).Rejects header before time used unread ∧
      firstError? items = some (rejection header most) ∧
      before.flatMap (·.2) ++ used = packets.flatMap Packet.toBytes ++ header.toBytes :=
    hpackets ▸ exists_rejection hf rfl
  have hfails : firstError? items ≠ none ↔ ∃ (header : Header) (rest : List UInt8),
      wire = packets.flatMap Packet.toBytes ++ header.toBytes ++ rest ∧
        most < header.payloadLength := by
    constructor
    · intro h
      obtain ⟨header, before, time, used, unread, after, hchunks, hrejects, -, hbytes⟩ :=
        hrejected h
      exact ⟨header, unread ++ after.flatMap (·.2), by simp [wire, hchunks, ← hbytes],
        hrejects.exceeds⟩
    · rintro ⟨header, rest, hwire, hover⟩ hok
      rw [← hpackets] at hwire
      exact absurd hover (Nat.not_lt.2 (payloadLength_le_of_ok hf rfl rfl hok hwire))
  refine ⟨hpackets, fun others h => ?_, hfails, fun header rest hwire hover => ?_⟩
  · rw [hpackets, takeWhile_untimed, takeWhile_untimed, packetsOf_of_same_bytes h]
  obtain ⟨other, before, time, used, unread, after, hchunks, hrejects, herror, hbytes⟩ :=
    hrejected (hfails.2 ⟨header, rest, hwire, hover⟩)
  have hsame : wire = packets.flatMap Packet.toBytes ++
      (other.toBytes ++ (unread ++ after.flatMap (·.2))) := by
    rw [← List.append_assoc, ← hbytes]
    simp [wire, hchunks]
  rw [hwire, List.append_assoc, List.append_cancel_left_eq] at hsame
  obtain ⟨rfl, -⟩ := Header.toBytes_append_inj hsame
  exact ⟨herror, before, time, used, unread, after, hchunks, hbytes, hrejects⟩

/-- The value of one car and the beginning of a notice over the limit, whose header arrives in two
pieces and whose text never comes to its end. -/
theorem feedEach_withLimit_cutNotice :
    let chunks : List (Instant × List UInt8) :=
      [(.epoch, [0x21, 0x10, 0x37, 0xC0]), (.ofParts 1 0, [0x0A, 0x68])]
    let value : Packet := .assemble ⟨0x21, 0x10⟩ [0x37] .epoch
    chunks.flatMap (·.2) = [value].flatMap Packet.toBytes ++ [0xC0, 0x0A] ++ [0x68] ∧ 4 < 5 ∧
      firstError? ((withLimit 4).feedEach chunks).1 = some (.lengthExceedsMaximum 0 6 5 4) ∧
      ∃ before time used unread after, chunks = before ++ (time, used ++ unread) :: after ∧
        before.flatMap (·.2) ++ used = [value].flatMap Packet.toBytes ++ [0xC0, 0x0A] ∧
        (withLimit 4).Rejects ⟨0xC0, 0x0A⟩ before time used unread :=
  ⟨rfl, by decide,
    (feedEach_withLimit 4 [(.epoch, [0x21, 0x10, 0x37, 0xC0]), (.ofParts 1 0, [0x0A, 0x68])]).2.2.2
      ⟨0xC0, 0x0A⟩ [0x68] rfl (by decide)⟩

end Framer

end TimingFeed
