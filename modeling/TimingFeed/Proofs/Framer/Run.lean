import TimingFeed.Framer
import Mathlib.Tactic.SplitIfs

/-!
# Runs of a framer

What one byte does to a framer, and what follows for the bytes of a whole chunk.

* `handOver_eq`: what comes of handing packets over one by one;
* `push_short`, `push_header`: the two equations of `Framer.push`; later proofs use them in
  place of its definition;
* `pushAll_unfinished`, `pushAll_frame`: the bytes of an unfinished packet are held, those of a
  whole frame give its packet;
* `pushAll_append_of_ok`, `pushAll_append_of_error`: a run over two parts is a run over the first
  and, unless an error was found there, one over the second from where the first ended;
* `pushAll_stamp`: the receipt time changes nothing but the stamps.
-/

namespace TimingFeed

/-- The same packet with another receipt time. -/
def Packet.stamped (p : Packet) (time : Instant) : Packet := { p with time }

/-- A packet apart from its receipt time. -/
def Packet.untimed (p : Packet) : Packet := p.stamped .epoch

@[simp] theorem Packet.stamped_stamped (p : Packet) (s t : Instant) :
    (p.stamped s).stamped t = p.stamped t := rfl

@[simp] theorem Packet.untimed_stamped (p : Packet) (t : Instant) :
    (p.stamped t).untimed = p.untimed := rfl

@[simp] theorem Packet.toBytes_stamped (p : Packet) (t : Instant) :
    (p.stamped t).toBytes = p.toBytes := rfl

@[simp] theorem Packet.stamped_assemble (h : Header) (payload : List UInt8) (s t : Instant) :
    (Packet.assemble h payload s).stamped t = Packet.assemble h payload t := rfl

/-- The header of bytes that begin with one, and what follows it, are determined. -/
theorem Header.toBytes_append_inj {h k : Header} {s t : List UInt8}
    (he : h.toBytes ++ s = k.toBytes ++ t) : h = k ∧ s = t := by
  cases h; cases k
  simpa [Header.toBytes, and_assoc] using he

/-- An item with another receipt time. Errors have none. -/
def stampItem (time : Instant) (item : FramedItem) : FramedItem := item.map (·.stamped time)

/-- The bytes that the packets among the items take on the wire. -/
def wireOf (items : List FramedItem) : List UInt8 := (packetsOf items).flatMap Packet.toBytes

/-- The items up to the first error, that error included. -/
def untilError : List FramedItem → List FramedItem
  | [] => []
  | .ok p :: rest => .ok p :: untilError rest
  | .error e :: _ => [.error e]

section Items

variable (p : Packet) (e : FrameError) (items more : List FramedItem)

@[simp] theorem packetsOf_nil : packetsOf [] = [] := rfl

@[simp] theorem packetsOf_ok : packetsOf (.ok p :: items) = p :: packetsOf items := rfl

@[simp] theorem packetsOf_error : packetsOf (.error e :: items) = packetsOf items := rfl

@[simp] theorem packetsOf_append :
    packetsOf (items ++ more) = packetsOf items ++ packetsOf more := by
  simp [packetsOf]

@[simp] theorem firstError?_nil : firstError? [] = none := rfl

@[simp] theorem firstError?_ok : firstError? (.ok p :: items) = firstError? items := rfl

@[simp] theorem firstError?_error : firstError? (.error e :: items) = some e := rfl

@[simp] theorem wireOf_nil : wireOf [] = [] := rfl

@[simp] theorem wireOf_ok : wireOf (.ok p :: items) = p.toBytes ++ wireOf items := rfl

@[simp] theorem wireOf_append : wireOf (items ++ more) = wireOf items ++ wireOf more := by
  simp [wireOf]

@[simp] theorem stampItem_ok (t : Instant) : stampItem t (.ok p) = .ok (p.stamped t) := rfl

@[simp] theorem stampItem_error (t : Instant) : stampItem t (.error e) = .error e := rfl

@[simp] theorem firstError?_stamp (t : Instant) :
    firstError? (items.map (stampItem t)) = firstError? items := by
  induction items with
  | nil => rfl
  | cons item items ih => cases item <;> simp [ih]

@[simp] theorem packetsOf_stamp (t : Instant) :
    packetsOf (items.map (stampItem t)) = (packetsOf items).map (·.stamped t) := by
  induction items with
  | nil => rfl
  | cons item items ih => cases item <;> simp [ih]

@[simp] theorem packetsOf_map_ok (packets : List Packet) (t : Instant) :
    packetsOf (packets.map fun p => .ok (p.stamped t)) = packets.map (·.stamped t) := by
  induction packets with
  | nil => rfl
  | cons p packets ih => rw [List.map_cons, packetsOf_ok, ih, List.map_cons]

@[simp] theorem firstError?_map_ok (packets : List Packet) (t : Instant) :
    firstError? (packets.map fun p => .ok (p.stamped t)) = none := by
  induction packets with
  | nil => rfl
  | cons p packets ih => exact ih

@[simp] theorem packetsOf_packets (packets : List Packet) :
    packetsOf (packets.map .ok) = packets := by
  induction packets with
  | nil => rfl
  | cons p packets ih => rw [List.map_cons, packetsOf_ok, ih]

@[simp] theorem firstError?_packets (packets : List Packet) :
    firstError? (packets.map .ok) = none := by
  induction packets with
  | nil => rfl
  | cons p packets ih => exact ih

/-- Items without an error are packets. -/
theorem eq_map_ok_of_firstError?_eq_none {items : List FramedItem}
    (h : firstError? items = none) : items = (packetsOf items).map .ok := by
  induction items with
  | nil => rfl
  | cons item items ih =>
    cases item with
    | ok p => simpa using ih (by simpa using h)
    | error e => simp at h

@[simp] theorem firstError?_untilError : firstError? (untilError items) = firstError? items := by
  induction items with
  | nil => rfl
  | cons item items ih => cases item <;> simp [untilError, ih]

theorem untilError_append_of_ok (h : firstError? items = none) :
    untilError (items ++ more) = items ++ untilError more := by
  induction items with
  | nil => rfl
  | cons item items ih =>
    cases item with
    | ok p => simp [untilError, ih (by simpa using h)]
    | error e => simp at h

theorem untilError_of_ok {items : List FramedItem} (h : firstError? items = none) :
    untilError items = items := by
  simpa [untilError] using untilError_append_of_ok items [] h

theorem untilError_append_of_error (h : firstError? items ≠ none) :
    untilError (items ++ more) = untilError items := by
  induction items with
  | nil => simp at h
  | cons item items ih =>
    cases item with
    | ok p => simp [untilError, ih (by simpa using h)]
    | error e => rfl

/-- The packets before the first error are handed over. The count goes on from where it is. -/
theorem Framer.handOver_eq (count : Nat) :
    handOver count items =
      (packetsOf (untilError items),
        (firstError? items).elim (.ok (count + (packetsOf items).length)) .error) := by
  induction items generalizing count with
  | nil => rfl
  | cons item items ih =>
    cases item with
    | ok p =>
      simp only [handOver, ih, untilError, packetsOf_ok, firstError?_ok, List.length_cons]
      rw [Nat.add_assoc, Nat.add_comm 1]
    | error e => rfl

end Items

namespace Framer

/-- The bytes of a packet that is not complete: once its header is there, it announces no more
than the limit and more than has come. -/
def Unfinished (limit : Nat) (bytes : List UInt8) : Prop :=
  ∀ (header : Header) (payload : List UInt8), bytes = header.toBytes ++ payload →
    header.payloadLength ≤ limit ∧ payload.length < header.payloadLength

theorem unfinished_of_short {limit : Nat} {bytes : List UInt8} (h : bytes.length < headerLength) :
    Unfinished limit bytes := by
  rintro header payload rfl
  rw [List.length_append, Header.length_toBytes] at h
  omega

/-- What stands before an unfinished packet's end is unfinished too. -/
theorem Unfinished.of_append {limit : Nat} {bytes more : List UInt8}
    (h : Unfinished limit (bytes ++ more)) : Unfinished limit bytes := by
  rintro header payload rfl
  obtain ⟨hl, hp⟩ := h header (payload ++ more) (by simp)
  rw [List.length_append] at hp
  exact ⟨hl, by omega⟩

/-- Bytes either stop within the header or begin with one. -/
theorem short_or_header (bytes : List UInt8) :
    bytes.length < headerLength ∨
      ∃ (header : Header) (payload : List UInt8), bytes = header.toBytes ++ payload :=
  match bytes with
  | [] => .inl (by decide)
  | [_] => .inl (by simp)
  | first :: second :: payload => .inr ⟨⟨first, second⟩, payload, rfl⟩

/-! ### One byte -/

section Push

variable (f : Framer) (time : Instant) (b : UInt8)

theorem push_short {f : Framer} {b : UInt8} (h : (f.held ++ [b]).length < headerLength) :
    f.push time b = ({ f with held := f.held ++ [b] }, none) := by
  unfold push
  split
  · next first second payload he =>
    rw [he, List.length_cons, List.length_cons, headerLength] at h
    omega
  · rfl

theorem push_header {f : Framer} {b : UInt8} {header : Header} {payload : List UInt8}
    (h : f.held ++ [b] = header.toBytes ++ payload) :
    f.push time b =
      if f.limit < header.payloadLength then
        ({ f with held := header.toBytes, poisoned := true }, some (.error
          (.lengthExceedsMaximum header.car header.code header.payloadLength f.limit)))
      else if payload.length < header.payloadLength then
        ({ f with held := header.toBytes ++ payload }, none)
      else ({ f with held := [] }, some (.ok (.assemble header payload time))) := by
  unfold push
  rw [h]
  rfl

theorem push_unfinished {f : Framer} {b : UInt8} (h : Unfinished f.limit (f.held ++ [b])) :
    f.push time b = ({ f with held := f.held ++ [b] }, none) := by
  rcases short_or_header (f.held ++ [b]) with hs | ⟨header, payload, he⟩
  · exact push_short time hs
  · obtain ⟨hl, hp⟩ := h header payload he
    rw [push_header time he, if_neg (by omega), if_pos hp, he]

theorem push_complete {f : Framer} {b : UInt8} {header : Header} {payload : List UInt8}
    (h : f.held ++ [b] = header.toBytes ++ payload) (hl : header.payloadLength ≤ f.limit)
    (hp : payload.length = header.payloadLength) :
    f.push time b = ({ f with held := [] }, some (.ok (.assemble header payload time))) := by
  rw [push_header time h, if_neg (by omega), if_neg (by omega)]

/-- A byte that gives nothing is held. -/
theorem eq_of_push_none {f g : Framer} {b : UInt8} (h : f.push time b = (g, none)) :
    g = { f with held := f.held ++ [b] } := by
  rcases short_or_header (f.held ++ [b]) with hs | ⟨header, payload, he⟩
  · rw [push_short time hs] at h
    cases h
    rfl
  · rw [push_header time he] at h
    split_ifs at h <;> cases h
    rw [he]

/-- A packet takes all bytes held and the one that completes it. -/
theorem eq_of_push_ok {f g : Framer} {b : UInt8} {p : Packet}
    (h : f.push time b = (g, some (.ok p))) :
    g = { f with held := [] } ∧ p.toBytes = f.held ++ [b] ∧ p.time = time := by
  rcases short_or_header (f.held ++ [b]) with hs | ⟨header, payload, he⟩
  · rw [push_short time hs] at h
    cases h
  · rw [push_header time he] at h
    split_ifs at h <;> cases h
    exact ⟨rfl, he.symm, rfl⟩

/-- An error poisons the framer. -/
theorem poisoned_of_push_error {f g : Framer} {b : UInt8} {e : FrameError}
    (h : f.push time b = (g, some (.error e))) : g.poisoned = true := by
  rcases short_or_header (f.held ++ [b]) with hs | ⟨header, payload, he⟩
  · rw [push_short time hs] at h
    cases h
  · rw [push_header time he] at h
    split_ifs at h <;> cases h
    rfl

/-- The receipt time only stamps the packet. -/
theorem push_stamp (s : Instant) :
    f.push time b = ((f.push s b).1, (f.push s b).2.map (stampItem time)) := by
  rcases short_or_header (f.held ++ [b]) with hs | ⟨header, payload, he⟩
  · rw [push_short time hs, push_short s hs]
    rfl
  · rw [push_header time he, push_header s he]
    split
    · rfl
    · split <;> rfl

end Push

/-! ### The bytes of a chunk -/

section PushAll

variable (time : Instant) (f : Framer)

@[simp] theorem pushAll_nil : pushAll time f [] = ([], f, []) := rfl

theorem pushAll_cons_of_none {f g : Framer} {b : UInt8} (h : f.push time b = (g, none))
    (rest : List UInt8) : pushAll time f (b :: rest) = pushAll time g rest := by
  simp [pushAll, h]

theorem pushAll_cons_of_ok {f g : Framer} {b : UInt8} {p : Packet}
    (h : f.push time b = (g, some (.ok p))) (rest : List UInt8) :
    pushAll time f (b :: rest) =
      (.ok p :: (pushAll time g rest).1, (pushAll time g rest).2) := by
  simp [pushAll, h]

theorem pushAll_cons_of_error {f g : Framer} {b : UInt8} {e : FrameError}
    (h : f.push time b = (g, some (.error e))) (rest : List UInt8) :
    pushAll time f (b :: rest) = ([.error e], g, rest) := by
  simp [pushAll, h]

/-- The bytes of an unfinished packet are held. -/
theorem pushAll_unfinished {f : Framer} {bytes : List UInt8}
    (h : Unfinished f.limit (f.held ++ bytes)) :
    pushAll time f bytes = ([], { f with held := f.held ++ bytes }, []) := by
  induction bytes generalizing f with
  | nil => simp
  | cons b rest ih =>
    rw [← List.singleton_append, ← List.append_assoc] at h
    rw [pushAll_cons_of_none time (push_unfinished time h.of_append), ih h]
    simp

/-- The bytes that complete a frame give its packet. -/
theorem pushAll_frame {f : Framer} {bytes : List UInt8} {header : Header} {payload : List UInt8}
    (h : f.held ++ bytes = header.toBytes ++ payload) (hl : header.payloadLength ≤ f.limit)
    (hp : payload.length = header.payloadLength) (hb : bytes ≠ []) (rest : List UInt8) :
    pushAll time f (bytes ++ rest) =
      (.ok (.assemble header payload time) :: (pushAll time { f with held := [] } rest).1,
        (pushAll time { f with held := [] } rest).2) := by
  induction bytes generalizing f with
  | nil => exact absurd rfl hb
  | cons b more ih =>
    by_cases hm : more = []
    · subst hm
      exact pushAll_cons_of_ok time (push_complete time h hl hp) rest
    · -- A frame without its last byte is unfinished.
      have hu : Unfinished f.limit (f.held ++ [b]) := by
        intro header' payload' he
        have happ : header'.toBytes ++ (payload' ++ more) = header.toBytes ++ payload := by
          rw [← h, ← List.append_assoc, ← he, List.append_assoc, List.singleton_append]
        obtain ⟨rfl, rfl⟩ := Header.toBytes_append_inj happ
        have hpos := List.length_pos_iff.2 hm
        rw [List.length_append] at hp
        exact ⟨hl, by omega⟩
      rw [List.cons_append, pushAll_cons_of_none time (push_unfinished time hu)]
      exact ih (by simpa using h) hl hm

/-- The receipt time of a chunk only stamps its packets. -/
theorem pushAll_stamp (s : Instant) (bytes : List UInt8) :
    pushAll time f bytes =
      ((pushAll s f bytes).1.map (stampItem time), (pushAll s f bytes).2) := by
  fun_induction pushAll s f bytes with
  | case1 => rfl
  | case2 f b rest g h ih =>
    rw [pushAll_cons_of_none time (by rw [push_stamp f time b s, h]; rfl), ih]
  | case3 f b rest g p h r ih =>
    rw [pushAll_cons_of_ok time (by rw [push_stamp f time b s, h]; rfl), ih]
    rfl
  | case4 f b rest g e h =>
    rw [pushAll_cons_of_error time (by rw [push_stamp f time b s, h]; rfl)]
    rfl

/-- A run without an error reads everything and only changes what is held. -/
theorem pushAll_of_ok {bytes : List UInt8} (h : firstError? (pushAll time f bytes).1 = none) :
    (pushAll time f bytes).2 =
      ({ f with held := (pushAll time f bytes).2.1.held }, []) := by
  fun_induction pushAll time f bytes with
  | case1 => rfl
  | case2 f b rest g hpush ih => rw [ih h, eq_of_push_none time hpush]
  | case3 f b rest g p hpush r ih => rw [ih h, (eq_of_push_ok time hpush).1]
  | case4 f b rest g e hpush => simp at h

/-- A run with an error poisons the framer. -/
theorem pushAll_of_error {bytes : List UInt8} (h : firstError? (pushAll time f bytes).1 ≠ none) :
    (pushAll time f bytes).2.1.poisoned = true := by
  fun_induction pushAll time f bytes with
  | case1 => simp at h
  | case2 f b rest g hpush ih => exact ih h
  | case3 f b rest g p hpush r ih => exact ih h
  | case4 f b rest g e hpush => exact poisoned_of_push_error time hpush

/-- Nothing comes after an error. -/
theorem untilError_pushAll (bytes : List UInt8) :
    untilError (pushAll time f bytes).1 = (pushAll time f bytes).1 := by
  fun_induction pushAll time f bytes with
  | case1 => rfl
  | case2 f b rest g hpush ih => exact ih
  | case3 f b rest g p hpush r ih => rw [untilError, ih]
  | case4 f b rest g e hpush => rfl

/-- After a first part without an error the run goes on with the second. -/
theorem pushAll_append_of_ok {bytes : List UInt8}
    (h : firstError? (pushAll time f bytes).1 = none) (more : List UInt8) :
    pushAll time f (bytes ++ more) =
      ((pushAll time f bytes).1 ++ (pushAll time (pushAll time f bytes).2.1 more).1,
        (pushAll time (pushAll time f bytes).2.1 more).2) := by
  fun_induction pushAll time f bytes with
  | case1 => rfl
  | case2 f b rest g hpush ih => rw [List.cons_append, pushAll_cons_of_none time hpush, ih h]
  | case3 f b rest g p hpush r ih =>
    rw [List.cons_append, pushAll_cons_of_ok time hpush, ih h]
    rfl
  | case4 f b rest g e hpush => simp at h

/-- After an error in the first part nothing of the second is read. -/
theorem pushAll_append_of_error {bytes : List UInt8}
    (h : firstError? (pushAll time f bytes).1 ≠ none) (more : List UInt8) :
    pushAll time f (bytes ++ more) =
      ((pushAll time f bytes).1, (pushAll time f bytes).2.1,
        (pushAll time f bytes).2.2 ++ more) := by
  fun_induction pushAll time f bytes with
  | case1 => simp at h
  | case2 f b rest g hpush ih => rw [List.cons_append, pushAll_cons_of_none time hpush, ih h]
  | case3 f b rest g p hpush r ih => rw [List.cons_append, pushAll_cons_of_ok time hpush, ih h]
  | case4 f b rest g e hpush => rw [List.cons_append, pushAll_cons_of_error time hpush]

/-- Without an error no byte is lost: what was held and what came is in the packets and what is
held. -/
theorem pushAll_bytes {bytes : List UInt8} (h : firstError? (pushAll time f bytes).1 = none) :
    f.held ++ bytes =
      wireOf (pushAll time f bytes).1 ++ (pushAll time f bytes).2.1.held := by
  fun_induction pushAll time f bytes with
  | case1 => simp
  | case2 f b rest g hpush ih =>
    rw [← ih h, eq_of_push_none time hpush]
    simp
  | case3 f b rest g p hpush r ih =>
    obtain ⟨hg, hp, -⟩ := eq_of_push_ok time hpush
    rw [wireOf_ok, hp, List.append_assoc, ← ih h, hg]
    simp
  | case4 f b rest g e hpush => simp at h

end PushAll

end Framer

end TimingFeed
