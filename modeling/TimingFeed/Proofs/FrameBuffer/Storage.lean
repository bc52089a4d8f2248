import TimingFeed.FrameBuffer
import TimingFeed.Proofs.Framer.Calls

/-!
# What an array of fixed size holds

The bytes of the packet in progress are the first ones of the array. Main statement:
`Represents.pull`. An array and a framer that hold the same bytes give the same item and leave the
same bytes unread, whatever stands in the rest of the array, and no step of the array faults.

* `Stores`: the bytes of the packet in progress; `Stores.take` and `Stores.frame` say what copying
  into the array and out of it does;
* `Stores.takeHeader`, `Stores.settle_of_header`, `Stores.complete_of_frame`: what each part of a
  pull does with them;
* `Represents`: the array stands for a framer.
-/

namespace TimingFeed

theorem Header.frameLength_le (h : Header) : h.frameLength ≤ maxFrame :=
  Nat.add_le_add_left h.payloadLength_le headerLength

/-- Every header has an encoding, and its frame fits the array. -/
theorem Header.checkedFrameLength_eq (h : Header) : h.checkedFrameLength = .ok h.frameLength := by
  have hlength : h.encoding.frameLength h = h.frameLength := by
    rw [frameLength, payloadLength]
    cases hform : h.encoding with
    | special => rfl
    | short => simp only [LengthEncoding.frameLength]; split <;> omega
    | long => exact Nat.add_comm _ _
    | fixed n => rw [LengthEncoding.eq_of_ofCategory_eq_fixed hform]; rfl
  have hfits : ¬ maxFrame < h.frameLength := Nat.not_lt.2 h.frameLength_le
  simp only [checkedFrameLength, LengthEncoding.lookup_header, bind, Except.bind, hlength,
    if_neg hfits]
  rfl

theorem Header.checkedData_eq (h : Header) : h.checkedData = .ok h.data := by
  simp only [checkedData, LengthEncoding.lookup_header, bind, Except.bind, data]
  cases h.encoding <;> rfl

/-- Of the checks that can be made of a frame, only that of its length can fail. -/
theorem Packet.ofCheckedFrame_eq (frame : List UInt8) (time : Instant) :
    ofCheckedFrame frame time = ofFrame frame time := by
  match frame with
  | [] | [_] => rfl
  | first :: second :: payload =>
    simp only [ofCheckedFrame, ofFrame, Header.checkedData_eq, Header.checkedFrameLength_eq, bind,
      Except.bind]
    have hframe : (first :: second :: payload).length = headerLength + payload.length :=
      Nat.add_comm payload.length headerLength
    rw [hframe, Header.frameLength]
    by_cases hlength : payload.length = Header.payloadLength ⟨first, second⟩
    · rw [if_pos hlength, if_neg (by omega)]
      rfl
    · rw [if_neg hlength, if_pos (by omega)]
      rfl

/-! ### The length that a framer expects -/

namespace Framer

variable {f : Framer}

theorem expected?_of_poisoned (h : f.poisoned = true) : f.expected? = none := if_pos h

theorem expected?_of_short (h : f.held.length < headerLength) : f.expected? = none := by
  unfold expected?
  split
  · rfl
  · split
    · next first second payload he =>
      rw [he, List.length_cons, List.length_cons] at h
      exact absurd h (by simp [headerLength])
    · rfl

theorem expected?_of_header (hsound : f.poisoned = false) {header : Header} {payload : List UInt8}
    (h : f.held = header.toBytes ++ payload) : f.expected? = some header.frameLength := by
  simp only [expected?, hsound, h]
  rfl

end Framer

namespace FrameBuffer

/-- What is written stands behind what was there before. -/
theorem take_overwrite {n : Nat} (bytes : Vector UInt8 n) {start : Nat} {new : List UInt8}
    (h : start + new.length ≤ n) :
    (overwrite bytes start new).toList.take (start + new.length) =
      bytes.toList.take start ++ new := by
  have hstart : (bytes.toList.take start).length = start := by
    rw [List.length_take, Vector.length_toList]
    omega
  apply List.ext_getElem
  · rw [List.length_take, Vector.length_toList, List.length_append, hstart]
    omega
  · intro i hi hj
    have hlt : i < start + new.length := by rwa [List.length_append, hstart] at hj
    rw [List.getElem_take, Vector.getElem_toList]
    simp only [overwrite, Vector.getElem_ofFn]
    by_cases hold : i < start
    · rw [if_neg (by omega), List.getElem_append_left (by rwa [hstart]), List.getElem_take,
        Vector.getElem_toList]
      rfl
    · rw [if_pos (by omega), List.getElem_append_right (by omega)]
      rw [List.getD_eq_getElem?_getD, List.getElem?_eq_getElem (by omega), Option.getD_some]
      simp only [hstart]

/-- These bytes are the packet in progress, and they are counted. -/
structure Stores (b : FrameBuffer) (held : List UInt8) : Prop where
  filled : b.filled = held.length
  bytes : b.bytes.toList.take held.length = held

variable {b : FrameBuffer} {held chunk : List UInt8}

theorem Stores.length_le (h : b.Stores held) : held.length ≤ maxFrame := by
  have hlength := congrArg List.length h.bytes
  rw [List.length_take, Vector.length_toList] at hlength
  omega

/-- Copying up to a length that the array has room for: the first bytes of what is stored and what
comes are stored then, and the others are left. -/
theorem Stores.take (h : b.Stores held) {length : Nat} (hheld : held.length ≤ length)
    (hroom : length ≤ maxFrame) (chunk : List UInt8) :
    ∃ bytes filled,
      b.take (length - held.length) chunk =
        .ok ({ b with bytes, filled }, (held ++ chunk).drop length) ∧
      ({ b with bytes, filled } : FrameBuffer).Stores ((held ++ chunk).take length) := by
  have hnew : (held ++ chunk).take length = held ++ chunk.take (length - held.length) := by
    rw [List.take_append, List.take_of_length_le hheld]
  have hrest : (held ++ chunk).drop length = chunk.drop (length - held.length) := by
    rw [List.drop_append, List.drop_eq_nil_of_le hheld, List.nil_append]
  have hfits : held.length + (chunk.take (length - held.length)).length ≤ maxFrame := by
    rw [List.length_take]
    omega
  refine ⟨overwrite b.bytes held.length (chunk.take (length - held.length)),
    held.length + (chunk.take (length - held.length)).length, ?_, ?_, ?_⟩
  · rw [FrameBuffer.take, h.filled, hrest]
    exact if_pos hfits
  · rw [hnew, List.length_append]
  · have htake := take_overwrite b.bytes hfits
    rwa [h.bytes, ← List.length_append, ← hnew] at htake

/-- Reading the packet in progress gives what is stored. -/
theorem Stores.frame (h : b.Stores held) : b.frame held.length = .ok held := by
  rw [FrameBuffer.frame, if_pos h.length_le, h.bytes]

theorem Stores.header {header : Header} {payload : List UInt8}
    (h : b.Stores (header.toBytes ++ payload)) : b.header = header := by
  have hfirst := congrArg (·[0]?) h.bytes
  have hsecond := congrArg (·[1]?) h.bytes
  cases header
  simp only [Header.toBytes, List.cons_append, List.getElem?_take, List.length_cons,
    Vector.getElem?_toList] at hfirst hsecond
  rw [if_pos (Nat.zero_lt_succ _), Vector.getElem?_eq_getElem (by decide)] at hfirst
  rw [if_pos (by omega), Vector.getElem?_eq_getElem (by decide)] at hsecond
  simpa [FrameBuffer.header] using And.intro hfirst hsecond

/-! ### The parts of a pull -/

/-- Bytes are taken until there is a header, unless there is one. -/
theorem Stores.takeHeader (h : b.Stores held) (chunk : List UInt8) :
    ∃ bytes filled,
      b.takeHeader chunk =
        .ok ({ b with bytes, filled }, (held ++ chunk).drop (max headerLength held.length)) ∧
      ({ b with bytes, filled } : FrameBuffer).Stores
        ((held ++ chunk).take (max headerLength held.length)) := by
  by_cases hshort : held.length < headerLength
  · rw [Nat.max_eq_left (Nat.le_of_lt hshort)]
    obtain ⟨bytes, filled, htake, hstores⟩ :=
      h.take (Nat.le_of_lt hshort) (by decide : headerLength ≤ maxFrame) chunk
    refine ⟨bytes, filled, ?_, hstores⟩
    rw [FrameBuffer.takeHeader, h.filled, if_pos hshort, difference,
      if_pos (Nat.le_of_lt hshort)]
    exact htake
  · rw [Nat.max_eq_right (Nat.le_of_not_lt hshort), List.take_left, List.drop_left]
    exact ⟨b.bytes, b.filled, if_neg (h.filled ▸ hshort), h⟩

/-- The length is that of the frame, if the payload is within the limit. -/
theorem announced_eq (b : FrameBuffer) :
    b.announced = .ok (if b.limit < b.header.payloadLength then
      .error (.lengthExceedsMaximum b.header.car b.header.code b.header.payloadLength b.limit)
      else .ok b.header.frameLength) := by
  have hpayload : difference b.header.frameLength headerLength = .ok b.header.payloadLength := by
    rw [difference, Header.frameLength, if_pos (Nat.le_add_right _ _), Nat.add_sub_cancel_left]
  simp only [announced, Header.checkedFrameLength_eq, hpayload, bind, Except.bind]
  split <;> rfl

/-- A header that is accepted gives the length of the frame. -/
theorem Stores.settle_of_header {header : Header} {payload : List UInt8}
    (h : b.Stores (header.toBytes ++ payload))
    (hexpected : b.expected = none ∨ b.expected = some header.frameLength)
    (hfits : header.payloadLength ≤ b.limit) :
    b.settle =
      .ok (.ok header.frameLength, { b with expected := some header.frameLength }) := by
  have hannounced := b.announced_eq
  rw [h.header, if_neg (Nat.not_lt.2 hfits)] at hannounced
  rcases hexpected with hnone | hsome
  · simp only [settle, hnone, hannounced, bind, Except.bind]
    rfl
  · simp only [settle, hsome]
    rw [← hsome]

/-- A header that is not accepted poisons the buffer. -/
theorem Stores.settle_of_over {header : Header} (h : b.Stores header.toBytes)
    (hexpected : b.expected = none) (hover : b.limit < header.payloadLength) :
    b.settle = .ok (.error (.lengthExceedsMaximum header.car header.code header.payloadLength
      b.limit), { b with poisoned := true }) := by
  have hheader : b.header = header := by
    rw [← List.append_nil header.toBytes] at h
    exact h.header
  have hannounced := b.announced_eq
  rw [hheader, if_pos hover] at hannounced
  simp only [settle, hexpected, hannounced, bind, Except.bind]
  rfl

/-- Too few bytes for the frame are stored. -/
theorem Stores.complete_of_short (h : b.Stores held) {length : Nat}
    (hroom : length ≤ maxFrame) {chunk : List UInt8} (hshort : (held ++ chunk).length < length)
    (time : Instant) :
    ∃ bytes filled, b.complete time length chunk = .ok (none, { b with bytes, filled }, []) ∧
      ({ b with bytes, filled } : FrameBuffer).Stores (held ++ chunk) := by
  have hheld : held.length ≤ length := by
    rw [List.length_append] at hshort
    omega
  obtain ⟨bytes, filled, htake, hstores⟩ := h.take hheld hroom chunk
  rw [List.take_of_length_le (Nat.le_of_lt hshort)] at hstores
  rw [List.drop_eq_nil_of_le (Nat.le_of_lt hshort)] at htake
  refine ⟨bytes, filled, ?_, hstores⟩
  have hfilled : filled = (held ++ chunk).length := hstores.filled
  have hmore : filled < length := hfilled ▸ hshort
  simp only [complete, h.filled, difference, if_pos hheld, htake, if_pos hmore, bind, Except.bind]
  rfl

/-- The bytes of a whole frame give its packet. -/
theorem Stores.complete_of_frame (h : b.Stores held) {length : Nat}
    (hroom : length ≤ maxFrame) {p : Packet} {rest : List UInt8}
    (hwhole : held ++ chunk = p.toBytes ++ rest) (hlength : p.toBytes.length = length)
    (hheld : held.length ≤ length) (hwf : p.WellFormed) :
    ∃ bytes, b.complete p.time length chunk =
      .ok (some (.ok p), { b with bytes, filled := 0, expected := none }, rest) := by
  obtain ⟨bytes, filled, htake, hstores⟩ := h.take hheld hroom chunk
  rw [hwhole, List.take_left' hlength] at hstores
  rw [hwhole, List.drop_left' hlength] at htake
  have hfilled : filled = length := hstores.filled.trans hlength
  have hfull : ¬ filled < length := Nat.not_lt.2 (Nat.le_of_eq hfilled.symm)
  have hframe := hstores.frame
  rw [hlength] at hframe
  refine ⟨bytes, ?_⟩
  simp only [complete, h.filled, difference, if_pos hheld, htake, if_neg hfull, hframe,
    Packet.ofCheckedFrame_eq, Packet.ofFrame_toBytes hwf, bind, Except.bind]
  rfl

/-! ### A whole pull -/

section Pull

variable {c d : FrameBuffer} {time : Instant} {rest : List UInt8}

theorem pull_of_short (hsound : b.poisoned = false) (htake : b.takeHeader chunk = .ok (c, rest))
    (hfilled : c.filled < headerLength) : b.pull time chunk = .ok (none, c, rest) := by
  simp only [pull, hsound, htake, if_pos hfilled, bind, Except.bind]
  rfl

theorem pull_of_accepted (hsound : b.poisoned = false)
    (htake : b.takeHeader chunk = .ok (c, rest)) (hfilled : headerLength ≤ c.filled) {length : Nat}
    (hsettle : c.settle = .ok (.ok length, d)) :
    b.pull time chunk = d.complete time length rest := by
  simp only [pull, hsound, htake, if_neg (Nat.not_lt.2 hfilled), hsettle, bind, Except.bind]
  rfl

theorem pull_of_rejected (hsound : b.poisoned = false)
    (htake : b.takeHeader chunk = .ok (c, rest)) (hfilled : headerLength ≤ c.filled)
    {e : FrameError} (hsettle : c.settle = .ok (.error e, d)) :
    b.pull time chunk = .ok (some (.error e), d, rest) := by
  simp only [pull, hsound, htake, if_neg (Nat.not_lt.2 hfilled), hsettle, bind, Except.bind]
  rfl

end Pull

/-- The array stands for a framer: they show the same, and the packet in progress is the same. -/
structure Represents (b : FrameBuffer) (f : Framer) : Prop where
  regular : f.Regular
  limit : b.limit = f.limit
  poisoned : b.poisoned = f.poisoned
  stores : b.Stores f.held
  expected : b.expected = f.expected?

variable {f g : Framer} {time : Instant} {rest : List UInt8} {item : Option FramedItem}

/-- Bytes that do not make a header are kept. -/
theorem Represents.pull_short (h : b.Represents f) (hsound : f.poisoned = false)
    (hshort : (f.held ++ chunk).length < headerLength) :
    ∃ bytes filled, b.pull time chunk = .ok (none, { b with bytes, filled }, []) ∧
      ({ b with bytes, filled } : FrameBuffer).Stores (f.held ++ chunk) := by
  obtain ⟨bytes, filled, htake, hstores⟩ := h.stores.takeHeader chunk
  have hle : (f.held ++ chunk).length ≤ max headerLength f.held.length :=
    Nat.le_trans (Nat.le_of_lt hshort) (Nat.le_max_left _ _)
  rw [List.drop_eq_nil_of_le hle] at htake
  rw [List.take_of_length_le hle] at hstores
  refine ⟨bytes, filled, ?_, hstores⟩
  have hfilled : filled = (f.held ++ chunk).length := hstores.filled
  exact pull_of_short (h.poisoned.trans hsound) htake (hfilled ▸ hshort)

/-- The length of the packet in progress, as far as it is known, is the one that its header
announces. -/
theorem Represents.expected_eq (h : b.Represents f) (hsound : f.poisoned = false)
    {header : Header} {payload : List UInt8} (he : f.held ++ chunk = header.toBytes ++ payload) :
    b.expected = none ∨ b.expected = some header.frameLength := by
  rw [h.expected]
  rcases Framer.short_or_header f.held with hshort | ⟨other, held, hheld⟩
  · exact .inl (Framer.expected?_of_short hshort)
  · rw [hheld, List.append_assoc] at he
    obtain ⟨rfl, -⟩ := Header.toBytes_append_inj he
    exact .inr (Framer.expected?_of_header hsound hheld)

/-- A pull that comes to a header goes on to the packet. -/
theorem Represents.pull_header (h : b.Represents f) (time : Instant)
    (hsound : f.poisoned = false) {header : Header} {payload : List UInt8}
    (he : f.held ++ chunk = header.toBytes ++ payload)
    (hfits : header.payloadLength ≤ f.limit) (hheld : f.held.length ≤ header.frameLength) :
    ∃ bytes filled stored rest,
      ({ b with bytes, filled, expected := some header.frameLength } : FrameBuffer).Stores stored ∧
      stored ++ rest = f.held ++ chunk ∧ stored.length ≤ header.frameLength ∧
      b.pull time chunk =
        ({ b with bytes, filled, expected := some header.frameLength } : FrameBuffer).complete time
          header.frameLength rest := by
  obtain ⟨bytes, filled, htake, hstores⟩ := h.stores.takeHeader chunk
  have hstored : (f.held ++ chunk).take (max headerLength f.held.length) =
      header.toBytes ++ payload.take (max headerLength f.held.length - headerLength) := by
    rw [he, List.take_append, Header.length_toBytes,
      List.take_of_length_le (Nat.le_max_left headerLength _)]
  have hfilled : filled = ((f.held ++ chunk).take (max headerLength f.held.length)).length :=
    hstores.filled
  have hfull : headerLength ≤ filled := by
    rw [hfilled, hstored, List.length_append, Header.length_toBytes]
    exact Nat.le_add_right _ _
  have hsettle := (hstored ▸ hstores).settle_of_header (h.expected_eq hsound he)
    (h.limit ▸ hfits : header.payloadLength ≤ b.limit)
  refine ⟨bytes, filled, _, _, ⟨hstores.filled, hstores.bytes⟩, List.take_append_drop _ _, ?_, ?_⟩
  · exact Nat.le_trans (List.length_take_le _ _)
      (Nat.max_le.2 ⟨Nat.le_add_right _ _, hheld⟩)
  · exact pull_of_accepted (h.poisoned.trans hsound) htake hfull hsettle

/-- Bytes that do not make a whole packet are kept. -/
theorem Represents.pull_unfinished (h : b.Represents f) (time : Instant)
    (hsound : f.poisoned = false) {header : Header} {payload : List UInt8}
    (he : f.held ++ chunk = header.toBytes ++ payload) (hfits : header.payloadLength ≤ f.limit)
    (hmore : payload.length < header.payloadLength) :
    ∃ bytes filled, b.pull time chunk =
        .ok (none, { b with bytes, filled, expected := some header.frameLength }, []) ∧
      ({ b with bytes, filled, expected := some header.frameLength } : FrameBuffer).Stores
        (f.held ++ chunk) := by
  have hlength : (f.held ++ chunk).length < header.frameLength := by
    rw [he, List.length_append, Header.length_toBytes]
    exact Nat.add_lt_add_left hmore _
  have hheld : f.held.length ≤ header.frameLength := by
    rw [List.length_append] at hlength
    omega
  obtain ⟨_, _, stored, rest, hstored, hwhole, -, hpull⟩ :=
    h.pull_header time hsound he hfits hheld
  obtain ⟨bytes, filled, hcomplete, hstores⟩ :=
    hstored.complete_of_short header.frameLength_le (hwhole ▸ hlength) time
  rw [hwhole] at hstores
  exact ⟨bytes, filled, hpull.trans hcomplete, hstores⟩

/-- The bytes of a whole packet give it. -/
theorem Represents.pull_packet (h : b.Represents f) (hsound : f.poisoned = false) {p : Packet}
    (hwf : p.WellFormed) (hfits : p.payload.length ≤ f.limit)
    (he : f.held ++ chunk = p.toBytes ++ rest) (hheld : f.held.length ≤ p.toBytes.length) :
    ∃ bytes, b.pull p.time chunk =
      .ok (some (.ok p), { b with bytes, filled := 0, expected := none }, rest) := by
  have hlength := hwf.length_toBytes
  rw [hlength] at hheld
  obtain ⟨_, _, stored, unread, hstored, hwhole, hle, hpull⟩ :=
    h.pull_header p.time hsound (he.trans (List.append_assoc p.header.toBytes p.payload rest))
      (hwf.1 ▸ hfits) hheld
  obtain ⟨bytes, hcomplete⟩ := hstored.complete_of_frame p.header.frameLength_le
    (hwhole.trans he) hlength hle hwf
  exact ⟨bytes, hpull.trans hcomplete⟩

/-- A header that announces too much poisons the array. -/
theorem Represents.pull_over (h : b.Represents f) (time : Instant)
    (hsound : f.poisoned = false) {header : Header} (he : f.held ++ chunk = header.toBytes ++ rest)
    (hheld : f.held.length < headerLength) (hover : f.limit < header.payloadLength) :
    ∃ bytes filled,
      b.pull time chunk = .ok (some (.error (.lengthExceedsMaximum header.car header.code
        header.payloadLength f.limit)), { b with bytes, filled, poisoned := true }, rest) ∧
      ({ b with bytes, filled, poisoned := true } : FrameBuffer).Stores header.toBytes := by
  obtain ⟨bytes, filled, htake, hstores⟩ := h.stores.takeHeader chunk
  rw [Nat.max_eq_left (Nat.le_of_lt hheld), he] at htake hstores
  rw [List.drop_left' header.length_toBytes] at htake
  rw [List.take_left' header.length_toBytes] at hstores
  have hfilled : filled = headerLength := hstores.filled
  have hexpected : b.expected = none := h.expected.trans (Framer.expected?_of_short hheld)
  have hsettle := hstores.settle_of_over hexpected (h.limit ▸ hover)
  refine ⟨bytes, filled, ?_, hstores.filled, hstores.bytes⟩
  rw [← h.limit]
  exact pull_of_rejected (h.poisoned.trans hsound) htake (Nat.le_of_eq hfilled.symm) hsettle

/-- **A pull of the array is a pull of the framer.** -/
theorem Represents.pulls (h : b.Represents f) (hp : f.Pulls time chunk item g rest) :
    ∃ c, b.pull time chunk = .ok (item, c, rest) ∧ c.Represents g := by
  have hregular := hp.regular h.regular
  cases hp with
  | refused poisoned =>
    exact ⟨b, if_pos (h.poisoned.trans poisoned), h⟩
  | waiting sound unfinished =>
    rcases Framer.short_or_header (f.held ++ chunk) with hshort | ⟨header, payload, he⟩
    · obtain ⟨bytes, filled, hpull, hstores⟩ := h.pull_short sound hshort
      have hheld : f.held.length < headerLength := by
        rw [List.length_append] at hshort
        omega
      exact ⟨_, hpull, hregular, h.limit, h.poisoned, hstores,
        (h.expected.trans (Framer.expected?_of_short hheld)).trans
          (Framer.expected?_of_short hshort).symm⟩
    · obtain ⟨hfits, hmore⟩ := unfinished header payload he
      obtain ⟨bytes, filled, hpull, hstores⟩ := h.pull_unfinished time sound he hfits hmore
      refine ⟨_, hpull, hregular, h.limit, h.poisoned, hstores, ?_⟩
      exact (Framer.expected?_of_header (f := { f with held := f.held ++ chunk }) sound he).symm
  | @packet used rest p sound _ bytes wellFormed fits received =>
    subst received
    have hwhole : f.held ++ (used ++ rest) = p.toBytes ++ rest := by
      rw [← List.append_assoc, bytes]
    have hheld : f.held.length ≤ p.toBytes.length := by
      rw [bytes, List.length_append]
      exact Nat.le_add_right _ _
    obtain ⟨array, hpull⟩ := h.pull_packet sound wellFormed fits hwhole hheld
    exact ⟨_, hpull, hregular, h.limit, h.poisoned, ⟨rfl, rfl⟩,
      (Framer.expected?_of_short (f := { f with held := [] }) (by decide : 0 < headerLength)).symm⟩
  | @overLimit used rest header sound nonempty bytes exceeds =>
    have hheld : f.held.length < headerLength := by
      have hlength := congrArg List.length bytes
      have hused := List.length_pos_iff.2 nonempty
      rw [List.length_append, Header.length_toBytes] at hlength
      omega
    obtain ⟨array, filled, hpull, hstores⟩ := h.pull_over time sound
      (by rw [← List.append_assoc, bytes]) hheld exceeds
    exact ⟨_, hpull, hregular, h.limit, rfl, hstores,
      (h.expected.trans (Framer.expected?_of_short hheld)).trans
        (Framer.expected?_of_poisoned rfl).symm⟩

theorem Represents.pull (h : b.Represents f) (time : Instant) (chunk : List UInt8) :
    ∃ c, b.pull time chunk = .ok ((f.pull time chunk).1, c, (f.pull time chunk).2.2) ∧
      c.Represents (f.pull time chunk).2.1 :=
  h.pulls (Framer.pulls_pull h.regular.intact time chunk)

end FrameBuffer

end TimingFeed
