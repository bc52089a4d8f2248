import TimingFeed.Proofs.Decoder.Recording

/-!
# Three ways to take a stream

A stream that arrives in chunks can be read on demand, handed over chunk by chunk, or decoded from
a buffer. Main statement: `intakes_agree`. After every chunk the three have given the same packets,
apart from their receipt times, with the same number or the same error, and their framers tell the
same.

* `Intake` is what a chunk shows, `intakes` what several chunks show one after the other;
* `Framer.takeByReading`, `Framer.takeByDelivery` and `Decoder.takeByDecoding` are the three ways;
* `takeByReading_eq`, `takeByDelivery_eq` and `takeByDecoding_eq`: each of them shows the run of the
  framer over the chunk, `Intake.framed`;
* `intakes_eq_of_related`: ways that agree on one chunk agree on all.
-/

namespace TimingFeed

/-- A chunk and the receipt times that each way of taking it sees. A chunk that is read or
delivered has one time. Decoding looks at the clock for every packet; with each packet the decoder
has fewer bytes in its buffer, so it tells these times apart. -/
structure Chunk where
  bytes : List UInt8
  readAt : Instant
  deliveredAt : Instant
  clock : Decoder → Instant

/-- What a chunk shows: the packets before an error, apart from their receipt times; their number
or the error; what the framer tells of the packet in progress; and whether the chunk has nothing
more to give. -/
structure Intake where
  packets : List Packet
  result : Except FeedError Nat
  buffered : Nat
  expected? : Option Nat
  poisoned : Bool
  ended : Bool

namespace Intake

/-- What packets, a result and a framer show. -/
def of (packets : List Packet) (result : Except FeedError Nat) (f : Framer) (ended : Bool) :
    Intake :=
  ⟨packets.map Packet.untimed, result, f.buffered, f.expected?, f.poisoned, ended⟩

/-- The number of packets, or the error after them. -/
def resultOf (packets : List Packet) : Option FeedError → Except FeedError Nat
  | none => .ok packets.length
  | some e => .error e

/-- The error of an item that is none. -/
def errorOf? : Except FeedError Packet → Option FeedError
  | .ok _ => none
  | .error e => some e

/-- What a list of items and a framer show. -/
def ofItems (items : List (Except FeedError Packet)) (f : Framer) (ended : Bool) : Intake :=
  let packets := items.filterMap Except.toOption
  of packets (resultOf packets (items.findSome? errorOf?)) f ended

end Intake

/-- Read a chunk on demand to its end. There is an item at most for each byte, or the one refusal
of a poisoned framer, and then a call that tells the end. -/
def Reading.drain (r : Reading) : List FramedItem × Reading × Bool :=
  r.nextUpTo (r.unread.length + 2)

/-- Read a chunk on demand. -/
def Framer.takeByReading (f : Framer) (c : Chunk) : Intake × Framer :=
  let (items, r, ended) := (Reading.start f c.readAt c.bytes).drain
  (.ofItems (items.map (·.mapError .framing)) r.framer ended, r.framer)

/-- Hand the packets of a chunk over, all of them in one call. -/
def Framer.takeByDelivery (f : Framer) (c : Chunk) : Intake × Framer :=
  let d := f.deliver c.deliveredAt c.bytes
  (.of d.packets (d.result.mapError .framing) d.framer true, d.framer)

/-- Whether one more call gives no packet. -/
def Decoder.exhausted (d : Decoder) (time : Instant) : Bool :=
  match (d.decode time).1 with
  | .ok (some _) => false
  | .ok none | .error _ => true

/-- Add a chunk to the buffer and decode until nothing more is there or an error is found. -/
def Decoder.takeByDecoding (d : Decoder) (c : Chunk) : Intake × Decoder :=
  let (items, e, _) := (d.append c.bytes).decodeAll fun d => d.decode (c.clock d)
  (.ofItems items e.framer (e.exhausted (c.clock e)), e)

/-- What chunks show one after the other. -/
def intakes {σ : Type} (take : σ → Chunk → Intake × σ) : σ → List Chunk → List Intake
  | _, [] => []
  | s, c :: chunks => (take s c).1 :: intakes take (take s c).2 chunks

/-- **Ways that agree on a chunk, from related states and with related states after it, agree on
all chunks.** -/
theorem intakes_eq_of_related {σ τ : Type} (Related : σ → τ → Prop)
    {take : σ → Chunk → Intake × σ} {other : τ → Chunk → Intake × τ}
    (hstep : ∀ s t c, Related s t →
      (take s c).1 = (other t c).1 ∧ Related (take s c).2 (other t c).2)
    {s : σ} {t : τ} (h : Related s t) (chunks : List Chunk) :
    intakes take s chunks = intakes other t chunks := by
  induction chunks generalizing s t with
  | nil => rfl
  | cons c chunks ih =>
    obtain ⟨hshown, hnext⟩ := hstep s t c h
    rw [intakes, intakes, hshown, ih hnext]

/-! ### Receipt times -/

namespace Framer

variable (f : Framer) (s t : Instant)

theorem feed_stamp (bytes : List UInt8) :
    f.feed t bytes = ((f.feed s bytes).1.map (stampItem t), (f.feed s bytes).2) := by
  cases hf : f.poisoned with
  | true =>
    rw [feed_of_poisoned t hf, feed_of_poisoned s hf]
    rfl
  | false => rw [feed_of_sound t hf, feed_of_sound s hf, pushAll_stamp t f s]

theorem pushUntil_stamp (bytes : List UInt8) :
    pushUntil t f bytes =
      ((pushUntil s f bytes).1.map (stampItem t), (pushUntil s f bytes).2) := by
  fun_induction pushUntil s f bytes with
  | case1 => rfl
  | case2 f b rest g hpush ih =>
    have hstamped : f.push t b = (g, none) := by
      rw [push_stamp f t b s, hpush]
      rfl
    simp only [pushUntil, hstamped, ih]
  | case3 f b rest g item hpush =>
    have hstamped : f.push t b = (g, some (stampItem t item)) := by
      rw [push_stamp f t b s, hpush]
      rfl
    simp only [pushUntil, hstamped, Option.map_some]

theorem pull_stamp (bytes : List UInt8) :
    f.pull t bytes = ((f.pull s bytes).1.map (stampItem t), (f.pull s bytes).2) := by
  unfold pull
  split
  · rfl
  · exact pushUntil_stamp f s t bytes

end Framer

namespace Intake

variable (f : Framer)

/-- What a run of the framer shows. -/
def framed (items : List FramedItem) (f : Framer) : Intake :=
  of (packetsOf items) (resultOf (packetsOf items) ((firstError? items).map .framing)) f true

theorem of_stamped (packets : List Packet) (error? : Option FeedError) (ended : Bool)
    (t : Instant) :
    of (packets.map (·.stamped t)) (resultOf (packets.map (·.stamped t)) error?) f ended =
      of packets (resultOf packets error?) f ended := by
  cases error? <;> simp [of, resultOf]

theorem framed_stamp (items : List FramedItem) (t : Instant) :
    framed (items.map (stampItem t)) f = framed items f := by
  rw [framed, packetsOf_stamp, firstError?_stamp, of_stamped, framed]

/-- A number that is shown is that of the packets. -/
theorem length_of_result_ok {items : List FramedItem} {f : Framer} {n : Nat}
    (h : (framed items f).result = .ok n) : n = (framed items f).packets.length := by
  simp only [framed, of] at h ⊢
  cases herror : (firstError? items).map FeedError.framing with
  | some e => rw [herror] at h; cases h
  | none =>
    rw [herror] at h
    rw [List.length_map]
    exact (Except.ok.inj h).symm

/-- Items of a run show what the run shows. -/
theorem ofItems_framing (items : List FramedItem) :
    ofItems (items.map (·.mapError .framing)) f true = framed items f := by
  have hpackets : (items.map (·.mapError FeedError.framing)).filterMap Except.toOption =
      packetsOf items := by
    rw [List.filterMap_map, packetsOf]
    congr 1
    funext item
    cases item <;> rfl
  have herror : (items.map (·.mapError FeedError.framing)).findSome? errorOf? =
      (firstError? items).map .framing := by
    rw [List.findSome?_map, firstError?, List.map_findSome?]
    congr 1
    funext item
    cases item <;> rfl
  simp only [ofItems, hpackets, herror, framed]

/-- Only what packets hold apart from their receipt times is shown. -/
theorem ofItems_untimed (items : List (Except FeedError Packet)) (ended : Bool) :
    ofItems (items.map (·.map Packet.untimed)) f ended = ofItems items f ended := by
  have hpackets : (items.map (·.map Packet.untimed)).filterMap Except.toOption =
      (items.filterMap Except.toOption).map (·.stamped .epoch) := by
    rw [List.filterMap_map, List.map_filterMap]
    congr 1
    funext item
    cases item <;> rfl
  have herror : (items.map (·.map Packet.untimed)).findSome? errorOf? =
      items.findSome? errorOf? := by
    rw [List.findSome?_map]
    congr 1
    funext item
    cases item <;> rfl
  simp only [ofItems, hpackets, herror, of_stamped]

end Intake

/-! ### Each way shows the run of the framer -/

namespace Framer

variable (f : Framer) (c : Chunk)

theorem length_feed_lt (time : Instant) (bytes : List UInt8) :
    (f.feed time bytes).1.length < bytes.length + 2 := by
  cases hf : f.poisoned with
  | true => simp [feed_of_poisoned time hf]
  | false =>
    rw [feed_of_sound time hf]
    exact Nat.lt_add_right 1 (Nat.lt_succ_of_le (length_pushAll_le time f bytes))

/-- Reading on demand sees the end of a chunk and has its items. -/
theorem drain_start (time : Instant) (bytes : List UInt8) :
    (Reading.start f time bytes).drain =
      ((f.feed time bytes).1,
        { framer := (f.feed time bytes).2.1, time, unread := (f.feed time bytes).2.2,
          ended := true }, true) :=
  Reading.nextUpTo_start time f bytes (f.length_feed_lt time bytes)

/-- **Reading on demand shows the run over the chunk.** -/
theorem takeByReading_eq :
    f.takeByReading c = (.framed (f.feed .epoch c.bytes).1 (f.feed .epoch c.bytes).2.1,
      (f.feed .epoch c.bytes).2.1) := by
  rw [takeByReading, drain_start, feed_stamp f .epoch c.readAt]
  simp only [Intake.ofItems_framing, Intake.framed_stamp]

/-- **So does handing packets over.** -/
theorem takeByDelivery_eq :
    f.takeByDelivery c = (.framed (f.feed .epoch c.bytes).1 (f.feed .epoch c.bytes).2.1,
      (f.feed .epoch c.bytes).2.1) := by
  rw [takeByDelivery, deliver_eq, feed_stamp f .epoch c.deliveredAt]
  dsimp only
  rw [← Intake.framed_stamp _ (f.feed .epoch c.bytes).1 c.deliveredAt, Intake.framed]
  cases firstError? ((f.feed .epoch c.bytes).1.map (stampItem c.deliveredAt)) <;> rfl

end Framer

namespace Decoder

variable {d : Decoder} {f : Framer}

/-- The decoder is as far as the framer: they hold the same, and unless an error was found nothing
is left in the source buffer. -/
structure Follows (d : Decoder) (f : Framer) : Prop where
  framer : d.framer = f
  source : f.poisoned = false → d.source = []

/-- The receipt time only stamps the packet that is decoded. -/
theorem decode_epoch (d : Decoder) (time : Instant) :
    d.decode .epoch =
      ((d.decode time).1.map (Option.map Packet.untimed), (d.decode time).2) := by
  unfold decode
  rw [Framer.pull_stamp d.framer time .epoch]
  rcases d.framer.pull time d.source with ⟨_ | e | p, g, rest⟩ <;> rfl

/-- Whatever the clock says, decoding gives the same packets apart from their receipt times. -/
theorem decodeUpTo_epoch (clock : Decoder → Instant) (n : Nat) (d : Decoder) :
    decodeUpTo (·.decode .epoch) n d =
      ((decodeUpTo (fun d => d.decode (clock d)) n d).1.map (·.map Packet.untimed),
        (decodeUpTo (fun d => d.decode (clock d)) n d).2) := by
  induction n generalizing d with
  | zero => rfl
  | succ n ih =>
    simp only [decodeUpTo]
    rw [decode_epoch d (clock d)]
    rcases d.decode (clock d) with ⟨e | _ | p, next⟩
    · rfl
    · rfl
    · simp only [Except.map, Option.map_some, ih, List.map_cons]

/-- A poisoned framer refuses to decode. -/
theorem decodeAll_of_poisoned (clock : Decoder → Instant) (h : d.framer.poisoned = true) :
    d.decodeAll (fun d => d.decode (clock d)) = ([.error (.framing .poisoned)], d, false) := by
  have hpull : d.framer.pull (clock d) d.source = (some (.error .poisoned), d.framer, d.source) :=
    if_pos h
  simp only [decodeAll, decodeUpTo, decode_of_pull_error hpull]

/-- A decoder that is as far as the framer gives no packet. -/
theorem Follows.exhausted (h : d.Follows f) (time : Instant) : d.exhausted time = true := by
  obtain ⟨rfl, hsource⟩ := h
  rcases hf : d.framer.poisoned with _ | _
  · have hpull : d.framer.pull time d.source = (none, d.framer, []) := by
      rw [hsource hf, Framer.pull, if_neg (by simp [hf])]
      rfl
    rw [Decoder.exhausted, decode_of_pull_none hpull]
  · have hpull : d.framer.pull time d.source = (some (.error .poisoned), d.framer, d.source) :=
      if_pos hf
    rw [Decoder.exhausted, decode_of_pull_error hpull]

/-- Decoding a chunk gives the items of the run over it, and keeps up with the framer. -/
theorem decodeAll_append (h : d.Follows f) (clock : Decoder → Instant) (chunk : List UInt8) :
    let decoded := (d.append chunk).decodeAll fun d => d.decode (clock d)
    decoded.1.map (·.map Packet.untimed) =
        (f.feed .epoch chunk).1.map (·.mapError .framing) ∧
      decoded.2.1.Follows (f.feed .epoch chunk).2.1 := by
  obtain ⟨rfl, hsource⟩ := h
  rcases hf : d.framer.poisoned with _ | _
  · -- The chunk is all there is to decode.
    have hchunk : d.append chunk = ⟨d.framer, chunk⟩ := by rw [append, hsource hf]; rfl
    obtain ⟨left, hleft, hnil⟩ := decodeUpTo_decode .epoch hf chunk
      (Nat.lt_succ_of_le (Framer.length_pushAll_le .epoch d.framer chunk))
    rw [decodeUpTo_epoch clock] at hleft
    rw [Framer.feed_of_sound .epoch hf, hchunk]
    refine ⟨congrArg Prod.fst hleft, ?_⟩
    have hdecoder : (decodeAll (fun d => d.decode (clock d)) ⟨d.framer, chunk⟩).2.1 = _ :=
      congrArg (·.2.1) hleft
    rw [hdecoder]
    refine ⟨rfl, fun hsound => hnil ?_⟩
    by_contra herror
    rw [Framer.pushAll_of_error .epoch d.framer herror] at hsound
    cases hsound
  · rw [decodeAll_of_poisoned (d := d.append chunk) clock hf, Framer.feed_of_poisoned .epoch hf]
    exact ⟨rfl, rfl, fun hsound => by rw [hf] at hsound; cases hsound⟩

/-- **And so does decoding,** and it keeps up with the framer. -/
theorem takeByDecoding_eq (h : d.Follows f) (c : Chunk) :
    (d.takeByDecoding c).1 = .framed (f.feed .epoch c.bytes).1 (f.feed .epoch c.bytes).2.1 ∧
      (d.takeByDecoding c).2.Follows (f.feed .epoch c.bytes).2.1 := by
  obtain ⟨hitems, hfollows⟩ := decodeAll_append h c.clock c.bytes
  refine ⟨?_, hfollows⟩
  rw [takeByDecoding]
  dsimp only
  rw [hfollows.exhausted, hfollows.framer, ← Intake.ofItems_untimed, hitems,
    Intake.ofItems_framing]

end Decoder

/-- **The three ways of taking a stream agree.** From any framer, a fresh one of any limit among
them, and for any chunks with any receipt times: reading each chunk on demand to its end, handing
its packets over, and decoding it from a buffer show the same after every chunk, errors and the
chunks after an error included. The packets are the same and in the same order, apart from their
receipt times; so is the error that ends them; and the framers hold as many bytes, expect the same
length and are poisoned alike. Every chunk is taken until it has nothing more to give, and a number
that comes of handing over is that of the packets of the chunk. -/
theorem intakes_agree (f : Framer) (chunks : List Chunk) :
    intakes Framer.takeByReading f chunks = intakes Framer.takeByDelivery f chunks ∧
      intakes Decoder.takeByDecoding ⟨f, []⟩ chunks = intakes Framer.takeByDelivery f chunks ∧
      ∀ shown ∈ intakes Framer.takeByDelivery f chunks,
        shown.ended = true ∧ ∀ n, shown.result = .ok n → n = shown.packets.length := by
  refine ⟨?_, ?_, ?_⟩
  · -- Both show the run of the framer, so they go on from the same framer.
    refine intakes_eq_of_related Eq (fun f g c h => ?_) rfl chunks
    subst h
    rw [f.takeByReading_eq c, f.takeByDelivery_eq c]
    exact ⟨rfl, rfl⟩
  · -- Behind an error the decoder keeps bytes, but its poisoned framer never looks at them.
    refine intakes_eq_of_related Decoder.Follows (fun d f c h => ?_) ⟨rfl, fun _ => rfl⟩ chunks
    rw [f.takeByDelivery_eq c]
    exact Decoder.takeByDecoding_eq h c
  · induction chunks generalizing f with
    | nil => simp [intakes]
    | cons c chunks ih =>
      intro shown hshown
      rcases List.mem_cons.mp hshown with rfl | hlater
      · rw [f.takeByDelivery_eq c]
        exact ⟨rfl, fun n hn => Intake.length_of_result_ok hn⟩
      · exact ih _ shown hlater

end TimingFeed
