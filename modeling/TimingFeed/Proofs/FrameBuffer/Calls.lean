import TimingFeed.Proofs.FrameBuffer.Storage

/-!
# What can be done with an array of fixed size

The same calls as of a framer, in any order. Main statements:

* `answerAll_withLimit`: no step faults, the array is `Consistent` after every call, and only two
  errors can occur;
* `answerAll_reset`: after a reset nothing tells an array from a fresh one;
* `Consistent.pull`: being consistent is enough for the next pull.

Both rest on `Represents.answerAll`. An array that stands for a framer gives the answers of the
framer and stands for the framer after them; what is left in the rest of the array is not part of
what `Represents` says, so that two arrays that stand for one framer give the same answers.
-/

namespace TimingFeed

namespace BufferReading

variable {b c : FrameBuffer} {time : Instant} {chunk rest : List UInt8}

theorem nextUpTo_of_pull_none (h : b.pull time chunk = .ok (none, c, rest)) (n : Nat) :
    (start b time chunk).nextUpTo (n + 1) =
      .ok ([], { buffer := c, time, unread := rest, ended := true }, true) := by
  simp [nextUpTo, next, start, h, bind, Except.bind, pure, Except.pure]

theorem nextUpTo_of_pull_error {e : FrameError}
    (h : b.pull time chunk = .ok (some (.error e), c, rest)) (n : Nat) :
    (start b time chunk).nextUpTo (n + 1) =
      .ok ([.error e], { buffer := c, time, unread := rest, ended := true }, decide (0 < n)) := by
  cases n <;> simp [nextUpTo, next, start, h, bind, Except.bind, pure, Except.pure]

theorem nextUpTo_of_pull_ok {p : Packet} {n : Nat} {items : List FramedItem} {r : BufferReading}
    {ended : Bool} (h : b.pull time chunk = .ok (some (.ok p), c, rest))
    (hlater : (start c time rest).nextUpTo n = .ok (items, r, ended)) :
    (start b time chunk).nextUpTo (n + 1) = .ok (.ok p :: items, r, ended) := by
  rw [start] at hlater
  simp [nextUpTo, next, start, h, hlater, bind, Except.bind, pure, Except.pure]

end BufferReading

namespace FrameBuffer

/-! ### Calls -/

/-- What an array shows beside an answer. -/
def shown (b : FrameBuffer) (a : Framer.Answer) : Shown :=
  ⟨a, b.filled, b.expected, b.limit, b.poisoned⟩

/-- The answer to a call, and the array after it. -/
def answer (b : FrameBuffer) : Framer.Call → Guarded (Framer.Answer × FrameBuffer)
  | .feed time chunk => do
    let (items, c, unread) ← b.feed time chunk
    return (.taken items unread true, c)
  | .read time chunk times => do
    let (items, r, ended) ← (BufferReading.start b time chunk).nextUpTo times
    return (.taken items r.unread ended, r.buffer)
  | .decode time source => do
    let (result, c, left) ← b.decode time source
    return (.decoded result left, c)
  | .decodeEnd time source => do
    let (result, c, left) ← b.decodeEnd time source
    return (.decoded result left, c)
  | .reset => .ok (.nothing, b.reset)

/-- What several calls in a row show. -/
def answerAll : FrameBuffer → List Framer.Call → Guarded (List Shown × FrameBuffer)
  | b, [] => .ok ([], b)
  | b, call :: calls => do
    let (a, c) ← b.answer call
    let (later, last) ← answerAll c calls
    return (c.shown a :: later, last)

/-! ### Each call gives what the framer gives -/

variable {b : FrameBuffer} {f : Framer}

theorem represents_withLimit (limit : Nat) : (withLimit limit).Represents (.withLimit limit) where
  regular := Framer.regular_withLimit limit
  limit := rfl
  poisoned := rfl
  stores := ⟨rfl, rfl⟩
  expected := rfl

theorem Represents.reset (h : b.Represents f) : b.reset.Represents f.reset where
  regular := h.regular.reset
  limit := h.limit
  poisoned := rfl
  stores := ⟨rfl, rfl⟩
  expected := rfl

theorem Represents.shown (h : b.Represents f) (a : Framer.Answer) : b.shown a = f.shown a := by
  rw [FrameBuffer.shown, Framer.shown, h.stores.filled, h.expected, h.limit, h.poisoned]
  rfl

theorem Represents.nextUpTo (h : b.Represents f) (time : Instant) (chunk : List UInt8) (n : Nat) :
    let (items, r, ended) := (Reading.start f time chunk).nextUpTo n
    ∃ s, (BufferReading.start b time chunk).nextUpTo n = .ok (items, s, ended) ∧
      s.unread = r.unread ∧ s.buffer.Represents r.framer := by
  induction n generalizing b f chunk with
  | zero => exact ⟨_, rfl, rfl, h⟩
  | succ n ih =>
    obtain ⟨c, hbuffer, hc⟩ := h.pull time chunk
    rcases hpull : f.pull time chunk with ⟨_ | e | p, g, rest⟩ <;> rw [hpull] at hbuffer hc
    · rw [Reading.nextUpTo_of_pull_none hpull]
      exact ⟨_, BufferReading.nextUpTo_of_pull_none hbuffer n, rfl, hc⟩
    · rw [Reading.nextUpTo_of_pull_error hpull]
      exact ⟨_, BufferReading.nextUpTo_of_pull_error hbuffer n, rfl, hc⟩
    · rw [Reading.nextUpTo_of_pull_ok hpull]
      obtain ⟨s, hlater, hs⟩ := ih hc rest
      exact ⟨s, BufferReading.nextUpTo_of_pull_ok hbuffer hlater, hs⟩

theorem Represents.feed (h : b.Represents f) (time : Instant) (chunk : List UInt8) :
    ∃ c, b.feed time chunk = .ok ((f.feed time chunk).1, c, (f.feed time chunk).2.2) ∧
      c.Represents (f.feed time chunk).2.1 := by
  have hread := h.nextUpTo time chunk (chunk.length + 2)
  rw [show (Reading.start f time chunk).nextUpTo (chunk.length + 2) = _ from
    f.drain_start time chunk] at hread
  obtain ⟨s, hnext, hunread, hs⟩ := hread
  refine ⟨s.buffer, ?_, hs⟩
  dsimp only at hunread
  rw [FrameBuffer.feed, hnext, ← hunread]
  rfl

theorem Represents.decode (h : b.Represents f) (time : Instant) (source : List UInt8) :
    ∃ c, b.decode time source = .ok ((Decoder.decode ⟨f, source⟩ time).1, c,
        (Decoder.decode ⟨f, source⟩ time).2.source) ∧
      c.Represents (Decoder.decode ⟨f, source⟩ time).2.framer := by
  obtain ⟨c, hbuffer, hc⟩ := h.pull time source
  rcases hpull : f.pull time source with ⟨_ | e | p, g, rest⟩ <;> rw [hpull] at hbuffer hc
  · rw [Decoder.decode_of_pull_none hpull]
    exact ⟨c, by rw [FrameBuffer.decode, hbuffer]; rfl, hc⟩
  · rw [Decoder.decode_of_pull_error hpull]
    exact ⟨c, by rw [FrameBuffer.decode, hbuffer]; rfl, hc⟩
  · rw [Decoder.decode_of_pull_ok hpull]
    exact ⟨c, by rw [FrameBuffer.decode, hbuffer]; rfl, hc⟩

theorem Represents.decodeEnd (h : b.Represents f) (time : Instant) (source : List UInt8) :
    ∃ c, b.decodeEnd time source = .ok ((Decoder.decodeEnd ⟨f, source⟩ time).1, c,
        (Decoder.decodeEnd ⟨f, source⟩ time).2.source) ∧
      c.Represents (Decoder.decodeEnd ⟨f, source⟩ time).2.framer := by
  obtain ⟨c, hbuffer, hc⟩ := h.decode time source
  rcases hdecode : Decoder.decode ⟨f, source⟩ time with ⟨e | _ | p, d⟩ <;>
    rw [hdecode] at hbuffer hc <;> simp only [Decoder.decodeEnd, hdecode]
  · exact ⟨c, by rw [FrameBuffer.decodeEnd, hbuffer]; rfl, hc⟩
  · -- Here the two look whether a packet is in progress.
    have hfilled : c.filled = d.framer.buffered := hc.stores.filled
    simp only [FrameBuffer.decodeEnd, hbuffer, bind, Except.bind, hfilled]
    split <;> exact ⟨c, rfl, hc⟩
  · exact ⟨c, by rw [FrameBuffer.decodeEnd, hbuffer]; rfl, hc⟩

/-- **A call of the array gives what the call of the framer gives.** -/
theorem Represents.answer (h : b.Represents f) (call : Framer.Call) :
    ∃ c, b.answer call = .ok ((f.answer call).1, c) ∧ c.Represents (f.answer call).2 := by
  cases call with
  | feed time chunk =>
    obtain ⟨c, hfeed, hc⟩ := h.feed time chunk
    exact ⟨c, by rw [FrameBuffer.answer, hfeed]; rfl, hc⟩
  | read time chunk times =>
    obtain ⟨s, hnext, hunread, hs⟩ := h.nextUpTo time chunk times
    refine ⟨s.buffer, ?_, hs⟩
    rw [FrameBuffer.answer, hnext]
    change Except.ok (Framer.Answer.taken _ s.unread _, s.buffer) = _
    rw [hunread]
    rfl
  | decode time source =>
    obtain ⟨c, hdecode, hc⟩ := h.decode time source
    exact ⟨c, by rw [FrameBuffer.answer, hdecode]; rfl, hc⟩
  | decodeEnd time source =>
    obtain ⟨c, hdecode, hc⟩ := h.decodeEnd time source
    exact ⟨c, by rw [FrameBuffer.answer, hdecode]; rfl, hc⟩
  | reset => exact ⟨b.reset, rfl, h.reset⟩

/-- **So do several calls.** -/
theorem Represents.answerAll (h : b.Represents f) (calls : List Framer.Call) :
    ∃ c, b.answerAll calls = .ok ((f.answerAll calls).1, c) ∧
      c.Represents (f.answerAll calls).2 := by
  induction calls generalizing b f with
  | nil => exact ⟨b, rfl, h⟩
  | cons call calls ih =>
    obtain ⟨c, hanswer, hc⟩ := h.answer call
    obtain ⟨last, hlater, hlast⟩ := ih hc
    refine ⟨last, ?_, hlast⟩
    simp only [FrameBuffer.answerAll, hanswer, hlater, bind, Except.bind, hc.shown]
    rfl

/-! ### What holds between two calls -/

/-- The count of the bytes and the length of the packet in progress fit each other: the length is
known once there is a header, it is more than there is and no more than is allowed, and it stays
unknown when the header is not accepted. -/
structure Consistent (b : FrameBuffer) : Prop where
  filled_le : b.filled ≤ maxFrame
  known : ∀ length, b.expected = some length →
    headerLength ≤ b.filled ∧ b.filled < length ∧ length ≤ b.limit + headerLength ∧
      b.header.checkedFrameLength = .ok length
  unknown : b.expected = none →
    b.filled < headerLength ∨ b.filled = headerLength ∧ b.poisoned = true

theorem Represents.consistent (h : b.Represents f) : b.Consistent where
  filled_le := h.stores.filled ▸ h.stores.length_le
  known := by
    intro length hlength
    rw [h.expected] at hlength
    cases hsound : f.poisoned with
    | true => rw [Framer.expected?_of_poisoned hsound] at hlength; cases hlength
    | false =>
      rcases Framer.short_or_header f.held with hshort | ⟨header, payload, hheld⟩
      · rw [Framer.expected?_of_short hshort] at hlength
        cases hlength
      · obtain ⟨hfits, hmore⟩ := h.regular.intact hsound header payload hheld
        rw [Framer.expected?_of_header hsound hheld] at hlength
        cases hlength
        have hheader : b.header = header := Stores.header (hheld ▸ h.stores)
        rw [h.stores.filled, h.limit, hheader, Header.checkedFrameLength_eq, hheld,
          List.length_append, Header.length_toBytes, Header.frameLength]
        exact ⟨Nat.le_add_right _ _, Nat.add_lt_add_left hmore _, by omega, rfl⟩
  unknown := by
    intro hnone
    rw [h.expected] at hnone
    rw [h.stores.filled, h.poisoned]
    cases hsound : f.poisoned with
    | true =>
      obtain ⟨header, hheld, -⟩ := h.regular.rejected hsound
      exact .inr ⟨hheld ▸ header.length_toBytes, rfl⟩
    | false =>
      rcases Framer.short_or_header f.held with hshort | ⟨header, payload, hheld⟩
      · exact .inl hshort
      · rw [Framer.expected?_of_header hsound hheld] at hnone
        cases hnone

/-- A consistent array without an error stands for a framer, the one that holds its counted
bytes. -/
theorem Consistent.represents (h : b.Consistent) (hlimit : b.limit ≤ maxPayload)
    (hsound : b.poisoned = false) :
    b.Represents { limit := b.limit, held := b.bytes.toList.take b.filled } := by
  have hlength : (b.bytes.toList.take b.filled).length = b.filled := by
    rw [List.length_take, Vector.length_toList]
    exact Nat.min_eq_left h.filled_le
  have hstores : b.Stores (b.bytes.toList.take b.filled) := ⟨hlength.symm, by rw [hlength]⟩
  cases hexpected : b.expected with
  | none =>
    have hshort : (b.bytes.toList.take b.filled).length < headerLength := by
      rcases h.unknown hexpected with hshort | ⟨-, hpoisoned⟩
      · rwa [hlength]
      · rw [hsound] at hpoisoned
        cases hpoisoned
    exact ⟨⟨hlimit, fun _ => Framer.unfinished_of_short hshort, nofun⟩, rfl, hsound, hstores,
      hexpected.trans (Framer.expected?_of_short hshort).symm⟩
  | some length =>
    obtain ⟨hheader, hmore, hfits, hannounced⟩ := h.known length hexpected
    rw [Header.checkedFrameLength_eq] at hannounced
    cases hannounced
    rcases Framer.short_or_header (b.bytes.toList.take b.filled) with hshort | ⟨header, payload, he⟩
    · omega
    · obtain rfl : b.header = header := Stores.header (he ▸ hstores)
      refine ⟨⟨hlimit, fun _ other rest ho => ?_, nofun⟩, rfl, hsound, hstores,
        hexpected.trans (Framer.expected?_of_header rfl he).symm⟩
      obtain ⟨rfl, rfl⟩ := Header.toBytes_append_inj (he.symm.trans ho)
      rw [he, List.length_append, Header.length_toBytes] at hlength
      rw [Header.frameLength] at hmore hfits
      have hwithin : b.header.payloadLength ≤ b.limit := by omega
      exact ⟨hwithin, by omega⟩

/-- **A pull of a consistent array does not fault and leaves a consistent array.** -/
theorem Consistent.pull (h : b.Consistent) (hlimit : b.limit ≤ maxPayload) (time : Instant)
    (chunk : List UInt8) :
    ∃ item c rest, b.pull time chunk = .ok (item, c, rest) ∧ c.Consistent ∧ c.limit = b.limit ∧
      ∀ e, item = some (.error e) → Framer.Raises b.limit e := by
  cases hpoisoned : b.poisoned with
  | true =>
    refine ⟨_, b, chunk, if_pos hpoisoned, h, rfl, fun e he => ?_⟩
    cases he
    exact .inl rfl
  | false =>
    have hb := h.represents hlimit hpoisoned
    have hpulls := Framer.pulls_pull hb.regular.intact time chunk
    obtain ⟨c, hpull, hc⟩ := hb.pulls hpulls
    exact ⟨_, c, _, hpull, hc.consistent, hc.limit.trans hpulls.limit_eq,
      fun e he => Framer.Pulls.raises (he ▸ hpulls)⟩

/-- **No call faults, whatever was called before.** The answers are those of the framer. The array
is consistent after every call, its limit stays what it was, and an error is either the one that
refuses a poisoned array or that of a header over a limit below the largest: a frame that has its
length is always read. -/
theorem answerAll_withLimit (limit : Nat) (calls : List Framer.Call) :
    ∃ answers b, (withLimit limit).answerAll calls = .ok (answers, b) ∧
      answers = ((Framer.withLimit limit).answerAll calls).1 ∧
      b.Consistent ∧ b.limit = min limit maxPayload ∧
      ∀ s ∈ answers, ∀ e ∈ s.answer.errors, e = .poisoned ∨
        limit < maxPayload ∧ ∃ header : Header, min limit maxPayload < header.payloadLength ∧
          e = .lengthExceedsMaximum header.car header.code header.payloadLength
            (min limit maxPayload) := by
  obtain ⟨b, hanswers, hb⟩ := (represents_withLimit limit).answerAll calls
  obtain ⟨-, hlimit, hraises⟩ :=
    Framer.leaves_answerAll (Framer.regular_withLimit limit) calls
  refine ⟨_, b, hanswers, rfl, hb.consistent, hb.limit.trans hlimit, fun s hs e he => ?_⟩
  rcases hraises s hs e he with hpoisoned | ⟨header, hover, herror⟩
  · exact .inl hpoisoned
  · have hbelow : min limit maxPayload < maxPayload :=
      Nat.lt_of_lt_of_le hover header.payloadLength_le
    exact .inr ⟨by omega, header, hover, herror⟩

/-! ### A reset -/

/-- **A reset leaves nothing behind.** Whatever was called before it, later calls of the array and
of a fresh one with the same limit show the same: what a framer without an array shows. -/
theorem answerAll_reset (limit : Nat) (earlier later : List Framer.Call) :
    ∃ before b answers last fresh, (withLimit limit).answerAll earlier = .ok (before, b) ∧
      b.reset.shown .nothing = (withLimit b.limit).shown .nothing ∧
      b.reset.answerAll later = .ok (answers, last) ∧
      (withLimit b.limit).answerAll later = .ok (answers, fresh) ∧
      answers = ((Framer.withLimit b.limit).answerAll later).1 := by
  obtain ⟨b, hearlier, hb⟩ := (represents_withLimit limit).answerAll earlier
  have hreset := hb.reset
  -- A reset framer is a fresh one, so that both arrays stand for the same framer.
  rw [← hb.regular.withLimit_limit, ← hb.limit] at hreset
  have hfresh := represents_withLimit b.limit
  obtain ⟨last, hlater, -⟩ := hreset.answerAll later
  obtain ⟨fresh, hsame, -⟩ := hfresh.answerAll later
  exact ⟨_, b, _, last, fresh, hearlier, (hreset.shown _).trans (hfresh.shown _).symm, hlater,
    hsame, rfl⟩

/-- The bytes of the packet before a reset are still in the array. -/
example : ∃ items b rest, (withLimit 4).feed .epoch [0x21, 0x10, 0x37] = .ok (items, b, rest) ∧
    b.reset.bytes[2] = 0x37 :=
  ⟨_, _, _, rfl, rfl⟩

end FrameBuffer

end TimingFeed
