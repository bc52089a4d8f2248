import TimingFeed.Proofs.Framer.Run
import Mathlib.Tactic.ByContra

/-!
# Chunking independence

A stream arrives in chunks that are cut anywhere: within a header, right after it, within a
payload, at the end of a packet. Main statement: `feedEach_chunks`. Apart from the receipt
times, the items and the state at the end are those of the whole stream in one chunk; every
packet carries the time of the chunk with its last byte; and after an error every chunk is
refused.
-/

namespace TimingFeed

/-- The receipt time of every byte of a list of chunks. -/
def receiptTimes (chunks : List (Instant × List UInt8)) : List Instant :=
  chunks.flatMap fun chunk => List.replicate chunk.2.length chunk.1

@[simp] theorem receiptTimes_nil : receiptTimes [] = [] := rfl

@[simp] theorem receiptTimes_cons (time : Instant) (bytes : List UInt8)
    (chunks : List (Instant × List UInt8)) :
    receiptTimes ((time, bytes) :: chunks) =
      List.replicate bytes.length time ++ receiptTimes chunks := rfl

namespace Framer

variable (f : Framer) (time : Instant)

/-! ### One chunk -/

theorem feed_of_poisoned {f : Framer} (h : f.poisoned = true) (bytes : List UInt8) :
    f.feed time bytes = ([.error .poisoned], f, bytes) := by
  rw [feed, if_pos h]

theorem feed_of_sound {f : Framer} (h : f.poisoned = false) (bytes : List UInt8) :
    f.feed time bytes = pushAll time f bytes := by
  rw [feed, if_neg (by simp [h])]

/-- Nothing follows an error in one chunk. -/
theorem untilError_feed (bytes : List UInt8) :
    untilError (f.feed time bytes).1 = (f.feed time bytes).1 := by
  cases hpoisoned : f.poisoned with
  | true => rw [feed_of_poisoned time hpoisoned, untilError]
  | false => rw [feed_of_sound time hpoisoned, untilError_pushAll]

/-- The packets of a chunk are handed over, and the count is their number. -/
theorem deliver_eq (bytes : List UInt8) :
    f.deliver time bytes =
      { framer := (f.feed time bytes).2.1
        packets := packetsOf (f.feed time bytes).1
        result := (firstError? (f.feed time bytes).1).elim
          (.ok (packetsOf (f.feed time bytes).1).length) .error } := by
  simp only [deliver, handOver_eq, untilError_feed, Nat.zero_add]

/-- A run without an error leaves a sound framer. -/
theorem poisoned_pushAll_of_ok {bytes : List UInt8}
    (h : firstError? (pushAll time f bytes).1 = none) :
    (pushAll time f bytes).2.1.poisoned = f.poisoned := by
  rw [pushAll_of_ok time f h]

/-- A packet of a run carries its time, and its last byte is among the bytes that came. -/
theorem pushAll_position (bytes : List UInt8) {after : List FramedItem} {p : Packet} :
    ∀ before, (pushAll time f bytes).1 = before ++ .ok p :: after →
      p.time = time ∧ f.held.length < (wireOf before).length + p.toBytes.length ∧
        (wireOf before).length + p.toBytes.length ≤ f.held.length + bytes.length := by
  fun_induction pushAll time f bytes with
  | case1 => simp
  | case2 f b rest g hpush ih =>
    intro before h
    obtain ⟨ht, hlo, hhi⟩ := ih before h
    rw [eq_of_push_none time hpush, List.length_append, List.length_singleton] at hlo hhi
    rw [List.length_cons]
    exact ⟨ht, by omega, by omega⟩
  | case3 f b rest g q hpush r ih =>
    intro before h
    -- Either this packet is the one, or it is among those that follow with nothing held.
    obtain ⟨hg, hq, ht⟩ := eq_of_push_ok time hpush
    have hlen : q.toBytes.length = f.held.length + 1 := by simp [hq]
    rw [List.length_cons]
    rcases List.cons_eq_append_iff.1 h with ⟨rfl, hp⟩ | ⟨before, rfl, hp⟩
    · cases hp
      exact ⟨ht, by simp [hlen], by rw [wireOf_nil, List.length_nil, hlen]; omega⟩
    · obtain ⟨ht, hlo, hhi⟩ := ih before hp
      rw [hg, List.length_nil] at hlo hhi
      rw [wireOf_ok, List.length_append, hlen]
      exact ⟨ht, by omega, by omega⟩
  | case4 f b rest g e hpush =>
    intro before h
    rcases List.cons_eq_append_iff.1 h with ⟨-, hp⟩ | ⟨before, -, hp⟩
    · cases hp
    · simp at hp

/-! ### Several chunks -/

@[simp] theorem feedEach_nil : f.feedEach [] = ([], f) := rfl

theorem feedEach_cons (t : Instant) (bytes : List UInt8) (chunks : List (Instant × List UInt8)) :
    f.feedEach ((t, bytes) :: chunks) =
      ((f.feed t bytes).1 ++ ((f.feed t bytes).2.1.feedEach chunks).1,
        ((f.feed t bytes).2.1.feedEach chunks).2) := rfl

/-- A poisoned framer refuses every chunk and stays as it is. -/
theorem feedEach_of_poisoned {f : Framer} (h : f.poisoned = true)
    (chunks : List (Instant × List UInt8)) :
    f.feedEach chunks = (List.replicate chunks.length (.error .poisoned), f) := by
  induction chunks with
  | nil => rfl
  | cons chunk chunks ih =>
    obtain ⟨t, bytes⟩ := chunk
    rw [feedEach_cons, feed_of_poisoned t h, ih]
    rfl

/-- Sound at the start: the items up to the first error and the state at the end are those of
one run over all bytes. -/
theorem feedEach_of_sound {f : Framer} (h : f.poisoned = false)
    (chunks : List (Instant × List UInt8)) :
    (untilError (f.feedEach chunks).1).map (stampItem time) =
        (pushAll time f (chunks.flatMap (·.2))).1 ∧
      (f.feedEach chunks).2 = (pushAll time f (chunks.flatMap (·.2))).2.1 := by
  induction chunks generalizing f with
  | nil => exact ⟨rfl, rfl⟩
  | cons chunk chunks ih =>
    obtain ⟨t, bytes⟩ := chunk
    have hstamp := pushAll_stamp time f t bytes
    have herror : firstError? (pushAll time f bytes).1 = firstError? (pushAll t f bytes).1 := by
      rw [hstamp, firstError?_stamp]
    rw [feedEach_cons, feed_of_sound t h, List.flatMap_cons]
    by_cases hok : firstError? (pushAll t f bytes).1 = none
    · obtain ⟨hitems, hstate⟩ := ih ((poisoned_pushAll_of_ok f t hok).trans h)
      rw [pushAll_append_of_ok time f (herror.trans hok), hstamp,
        untilError_append_of_ok _ _ hok, List.map_append, hitems, hstate]
      exact ⟨rfl, rfl⟩
    · -- The error ends the run over all bytes, and the chunks that follow are refused.
      rw [pushAll_append_of_error time f (herror ▸ hok), hstamp,
        untilError_append_of_error _ _ hok, untilError_pushAll,
        feedEach_of_poisoned (pushAll_of_error t f hok)]
      exact ⟨rfl, rfl⟩

/-- An error among the items of some chunks leaves the framer poisoned. -/
theorem poisoned_feedEach_of_error {f : Framer} {chunks : List (Instant × List UInt8)}
    (h : firstError? (f.feedEach chunks).1 ≠ none) : (f.feedEach chunks).2.poisoned = true := by
  cases hf : f.poisoned with
  | true => rwa [feedEach_of_poisoned hf]
  | false =>
    have hsound := feedEach_of_sound .epoch hf chunks
    rw [hsound.2]
    apply pushAll_of_error
    rwa [← hsound.1, firstError?_stamp, firstError?_untilError]

/-- The place `last` is that of the last byte of a packet that comes after these items, counted
from the first byte that was not held. -/
def EndsAt (f : Framer) (before : List FramedItem) (p : Packet) (last : Nat) : Prop :=
  (wireOf before).length + p.toBytes.length = f.held.length + (last + 1)

/-- A packet of the first chunk carries the time of its last byte. -/
theorem position_first {f : Framer} {time : Instant} {bytes : List UInt8}
    {before after : List FramedItem} {p : Packet}
    (h : (pushAll time f bytes).1 = before ++ .ok p :: after)
    (chunks : List (Instant × List UInt8)) :
    ∃ last, f.EndsAt before p last ∧
      (receiptTimes ((time, bytes) :: chunks))[last]? = some p.time := by
  obtain ⟨htime, hlo, hhi⟩ := pushAll_position f time bytes before h
  obtain ⟨last, hlast⟩ := Nat.exists_eq_add_of_lt hlo
  have hends : f.EndsAt before p last := by rw [EndsAt, hlast, Nat.add_assoc]
  have hlt : last < bytes.length := by omega
  refine ⟨last, hends, ?_⟩
  rw [receiptTimes_cons, List.getElem?_append_left (by rwa [List.length_replicate]),
    List.getElem?_replicate, if_pos hlt, htime]

/-- A poisoned framer gives no packet. -/
theorem sound_of_packet {f : Framer} {chunks : List (Instant × List UInt8)}
    {before after : List FramedItem} {p : Packet}
    (h : (f.feedEach chunks).1 = before ++ .ok p :: after) : f.poisoned = false := by
  by_contra hf
  have hmem : (.ok p : FramedItem) ∈ (f.feedEach chunks).1 := by simp [h]
  rw [feedEach_of_poisoned (eq_true_of_ne_false hf)] at hmem
  cases List.eq_of_mem_replicate hmem

/-- A packet of a later chunk was preceded by no error. -/
theorem firstError?_of_later {f : Framer} {time : Instant} {bytes : List UInt8}
    {chunks : List (Instant × List UInt8)} {between after : List FramedItem} {p : Packet}
    (h : ((pushAll time f bytes).2.1.feedEach chunks).1 = between ++ .ok p :: after) :
    firstError? (pushAll time f bytes).1 = none := by
  by_contra herror
  have hpoisoned := pushAll_of_error time f herror
  rw [sound_of_packet h] at hpoisoned
  cases hpoisoned

/-- The bytes of the first chunk come before the place in the later chunks. -/
theorem position_later {f : Framer} {time : Instant} {bytes : List UInt8}
    {chunks : List (Instant × List UInt8)} {between after : List FramedItem} {p : Packet}
    (h : ((pushAll time f bytes).2.1.feedEach chunks).1 = between ++ .ok p :: after)
    (ih : ∃ last, (pushAll time f bytes).2.1.EndsAt between p last ∧
      (receiptTimes chunks)[last]? = some p.time) :
    ∃ last, f.EndsAt ((pushAll time f bytes).1 ++ between) p last ∧
      (receiptTimes ((time, bytes) :: chunks))[last]? = some p.time := by
  obtain ⟨last, hlen, htime⟩ := ih
  have hbytes := congrArg List.length (pushAll_bytes time f (firstError?_of_later h))
  simp only [List.length_append] at hbytes
  refine ⟨bytes.length + last, ?_, ?_⟩
  · rw [EndsAt] at hlen ⊢
    rw [wireOf_append, List.length_append]
    omega
  · rw [receiptTimes_cons, List.getElem?_append_right (by simp)]
    simpa using htime

/-- A packet carries the time of its last byte. -/
theorem feedEach_position {f : Framer} {chunks : List (Instant × List UInt8)}
    {before after : List FramedItem} {p : Packet}
    (h : (f.feedEach chunks).1 = before ++ .ok p :: after) :
    ∃ last, f.EndsAt before p last ∧ (receiptTimes chunks)[last]? = some p.time := by
  induction chunks generalizing f before with
  | nil => simp at h
  | cons chunk chunks ih =>
    obtain ⟨t, bytes⟩ := chunk
    have hsound := sound_of_packet h
    rw [feedEach_cons, feed_of_sound t hsound] at h
    rcases List.append_eq_append_iff.1 h with ⟨between, rfl, hitems⟩ | ⟨rest, hitems, hp⟩
    · exact position_later hitems (ih hitems)
    · rcases List.cons_eq_append_iff.1 hp with ⟨rfl, hlater⟩ | ⟨rest, rfl, -⟩
      · -- The packet is the first of the later chunks.
        have hitems' : ((pushAll t f bytes).2.1.feedEach chunks).1 = [] ++ .ok p :: after := hlater
        rw [List.append_nil] at hitems
        rw [← hitems, ← List.append_nil (pushAll t f bytes).1]
        exact position_later hitems' (ih hitems')
      · exact position_first hitems chunks

/-- **However a stream is cut into chunks, it is framed the same way.** From any state and for
any chunks, at least one: the items up to the first error and the state at the end are those of
all bytes in one chunk, receipt times apart; every packet carries the time of the chunk that
holds its last byte; a chunk after an error, before these chunks or among them, gives one item,
the refusal. -/
theorem feedEach_chunks (chunk : Instant × List UInt8) (more : List (Instant × List UInt8)) :
    let chunks := chunk :: more
    let items := (f.feedEach chunks).1
    let whole := f.feed time (chunks.flatMap (·.2))
    (untilError items).map (stampItem time) = whole.1 ∧
      (f.feedEach chunks).2 = whole.2.1 ∧
      (∀ before p after, items = before ++ .ok p :: after →
        ∃ last, f.EndsAt before p last ∧ (receiptTimes chunks)[last]? = some p.time) ∧
      ∀ before t bytes after, chunks = before ++ (t, bytes) :: after →
        f.poisoned = true ∨ firstError? (f.feedEach before).1 ≠ none →
        ((f.feedEach before).2.feed t bytes).1 = [.error .poisoned] := by
  intro chunks items whole
  have hwhole : (untilError items).map (stampItem time) = whole.1 ∧
      (f.feedEach chunks).2 = whole.2.1 := by
    cases hf : f.poisoned with
    | true =>
      have hitems : items = .error .poisoned :: List.replicate more.length (.error .poisoned) := by
        simp only [items, chunks, feedEach_of_poisoned hf, List.length_cons, List.replicate_succ]
      rw [hitems]
      simp only [whole, feed_of_poisoned time hf]
      exact ⟨rfl, by rw [feedEach_of_poisoned hf]⟩
    | false =>
      simp only [whole, feed_of_sound time hf]
      exact feedEach_of_sound time hf chunks
  refine ⟨hwhole.1, hwhole.2, fun before p after h => feedEach_position h, ?_⟩
  intro before t bytes after _ herror
  rcases herror with hf | herror
  · rw [feedEach_of_poisoned hf, feed_of_poisoned t hf]
  · rw [feed_of_poisoned t (poisoned_feedEach_of_error herror)]

/-- A header that is cut in two announces too much, and the next chunk is refused. -/
theorem feedEach_chunks_over_limit :
    ((({ limit := 1 } : Framer).feedEach [(.epoch, [0x21]), (.epoch, [0x20])]).2.feed .epoch
      [0x37]).1 = [.error .poisoned] :=
  (feedEach_chunks { limit := 1 } .epoch (.epoch, [0x21])
      [(.epoch, [0x20]), (.epoch, [0x37])]).2.2.2
    [(.epoch, [0x21]), (.epoch, [0x20])] .epoch [0x37] [] rfl (.inr (by decide))

end Framer

end TimingFeed
