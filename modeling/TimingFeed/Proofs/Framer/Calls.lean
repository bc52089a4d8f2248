import TimingFeed.Proofs.Decoder.Agreement

/-!
# What can be done with a framer

Chunks are taken whole, or read on demand and given up anywhere; packets are decoded from a source
buffer; the framer is reset. All this happens in any order.

* `Framer.Call` is what can be asked of a framer, `Framer.answerAll` a run of calls, and `Shown`
  what one call shows: its answer, and what the framer tells afterwards;
* `Framer.PullsAll` are several pulls in a row, which is what taking and reading a chunk are
  (`pullsAll_nextUpTo`, `pullsAll_feed`);
* `Framer.Regular` is the invariant and `Framer.Raises` the errors that can occur: what holds of one
  pull (`Pulls.regular`, `Pulls.raises`) holds of one call (`leaves_answer`) and of a whole run
  (`leaves_answerAll`).
-/

namespace TimingFeed

namespace Reading

variable {f g : Framer} {time : Instant} {chunk rest : List UInt8}

/-! ### What a pull does to a reading -/

theorem nextUpTo_of_pull_none (h : f.pull time chunk = (none, g, rest)) (n : Nat) :
    (start f time chunk).nextUpTo (n + 1) =
      ([], { framer := g, time, unread := rest, ended := true }, true) := by
  simp [nextUpTo, next, start, h]

theorem nextUpTo_of_pull_error {e : FrameError} (h : f.pull time chunk = (some (.error e), g, rest))
    (n : Nat) :
    (start f time chunk).nextUpTo (n + 1) =
      ([.error e], { framer := g, time, unread := rest, ended := true }, decide (0 < n)) := by
  cases n with
  | zero => simp [nextUpTo, next, start, h]
  | succ n => simp [nextUpTo_of_error time h]

theorem nextUpTo_of_pull_ok {p : Packet} (h : f.pull time chunk = (some (.ok p), g, rest))
    (n : Nat) :
    (start f time chunk).nextUpTo (n + 1) =
      (.ok p :: ((start g time rest).nextUpTo n).1, ((start g time rest).nextUpTo n).2) := by
  simp [nextUpTo, next, start, h]

end Reading

/-- What can be asked of a framer. -/
inductive Framer.Call
  /-- Take a chunk to its end. -/
  | feed (time : Instant) (chunk : List UInt8)
  /-- Ask a chunk for items, so many times at most, and give up the rest of it. -/
  | read (time : Instant) (chunk : List UInt8) (times : Nat)
  /-- Decode the next packet of a source buffer. -/
  | decode (time : Instant) (source : List UInt8)
  /-- Decode when no more bytes can arrive. -/
  | decodeEnd (time : Instant) (source : List UInt8)
  | reset
  deriving DecidableEq

/-- What a call gives. -/
inductive Framer.Answer
  /-- The items of a chunk, the bytes of it that were not read, and whether its end was seen. -/
  | taken (items : List FramedItem) (unread : List UInt8) (ended : Bool)
  /-- What was decoded, and what the source buffer holds then. -/
  | decoded (result : Decoded) (source : List UInt8)
  | nothing

/-- The framing errors in an answer. -/
def Framer.Answer.errors : Framer.Answer → List FrameError
  | taken items _ _ => items.filterMap fun
    | .ok _ => none
    | .error e => some e
  | decoded (.error (.framing e)) _ => [e]
  | decoded (.error _) _ | decoded (.ok _) _ | nothing => []

/-- What a call shows: its answer, and what can be seen of the framing state after it. -/
structure Shown where
  answer : Framer.Answer
  buffered : Nat
  expected? : Option Nat
  limit : Nat
  poisoned : Bool

namespace Framer

/-- What a framer shows beside an answer. -/
def shown (f : Framer) (a : Answer) : Shown :=
  ⟨a, f.buffered, f.expected?, f.limit, f.poisoned⟩

/-- The answer to a call, and the framer after it. -/
def answer (f : Framer) : Call → Answer × Framer
  | .feed time chunk =>
    let (items, g, unread) := f.feed time chunk
    (.taken items unread true, g)
  | .read time chunk times =>
    let (items, r, ended) := (Reading.start f time chunk).nextUpTo times
    (.taken items r.unread ended, r.framer)
  | .decode time source =>
    let (result, d) := Decoder.decode ⟨f, source⟩ time
    (.decoded result d.source, d.framer)
  | .decodeEnd time source =>
    let (result, d) := Decoder.decodeEnd ⟨f, source⟩ time
    (.decoded result d.source, d.framer)
  | .reset => (.nothing, f.reset)

/-- What several calls in a row show. -/
def answerAll : Framer → List Call → List Shown × Framer
  | f, [] => ([], f)
  | f, c :: calls =>
    let (a, g) := f.answer c
    let (later, last) := answerAll g calls
    (g.shown a :: later, last)

/-! ### The errors of a pull and the state after it -/

/-- The errors that a framer with this limit gives. -/
def Raises (limit : Nat) (e : FrameError) : Prop :=
  e = .poisoned ∨ ∃ header : Header, limit < header.payloadLength ∧
    e = .lengthExceedsMaximum header.car header.code header.payloadLength limit

/-- What holds of a framer between two calls: the limit is one that it can have, a sound framer
holds an unfinished packet, and a poisoned one the header that it does not accept. -/
structure Regular (f : Framer) : Prop where
  limit_le : f.limit ≤ maxPayload
  intact : f.Intact
  rejected : f.poisoned = true →
    ∃ header : Header, f.held = header.toBytes ∧ f.limit < header.payloadLength

theorem regular_withLimit (limit : Nat) : (withLimit limit).Regular where
  limit_le := Nat.min_le_right limit maxPayload
  intact := intact_of_held_eq_nil rfl
  rejected := nofun

variable {f g : Framer} {time : Instant} {bytes rest : List UInt8}

theorem Regular.reset (h : f.Regular) : f.reset.Regular where
  limit_le := h.limit_le
  intact := intact_of_held_eq_nil rfl
  rejected := nofun

/-- A reset framer is a fresh one with the same limit. -/
theorem Regular.withLimit_limit (h : f.Regular) : withLimit f.limit = f.reset := by
  rw [withLimit, Nat.min_eq_left h.limit_le, Framer.reset]

section Pulls

variable {item : Option FramedItem}

theorem Pulls.limit_eq (h : f.Pulls time bytes item g rest) : g.limit = f.limit := by
  cases h <;> rfl

theorem Pulls.regular (hf : f.Regular) (h : f.Pulls time bytes item g rest) : g.Regular where
  limit_le := h.limit_eq ▸ hf.limit_le
  intact := h.intact
  rejected := by
    cases h with
    | refused => exact hf.rejected
    | waiting sound | packet sound => intro hpoisoned; rw [sound] at hpoisoned; cases hpoisoned
    | overLimit _ _ _ exceeds => exact fun _ => ⟨_, rfl, exceeds⟩

theorem Pulls.raises {e : FrameError} (h : f.Pulls time bytes (some (.error e)) g rest) :
    Raises f.limit e := by
  cases h with
  | refused => exact .inl rfl
  | overLimit _ _ _ exceeds => exact .inr ⟨_, exceeds, rfl⟩

end Pulls

/-! ### Several pulls -/

/-- What several pulls of one chunk can give: the items, the framer after them, the bytes not
read. -/
inductive PullsAll (time : Instant) :
    Framer → List UInt8 → List FramedItem → Framer → List UInt8 → Prop
  | done {f : Framer} {bytes : List UInt8} : PullsAll time f bytes [] f bytes
  | waiting {f g : Framer} {bytes rest : List UInt8} (pulls : f.Pulls time bytes none g rest) :
      PullsAll time f bytes [] g rest
  | item {f g h : Framer} {bytes rest last : List UInt8} {item : FramedItem}
      {items : List FramedItem} (pulls : f.Pulls time bytes (some item) g rest)
      (later : PullsAll time g rest items h last) : PullsAll time f bytes (item :: items) h last

section PullsAll

variable {items : List FramedItem}

theorem PullsAll.limit_eq (h : PullsAll time f bytes items g rest) : g.limit = f.limit := by
  induction h with
  | done => rfl
  | waiting pulls => exact pulls.limit_eq
  | item pulls _ ih => exact ih.trans pulls.limit_eq

theorem PullsAll.regular (hf : f.Regular) (h : PullsAll time f bytes items g rest) :
    g.Regular := by
  induction h with
  | done => exact hf
  | waiting pulls => exact pulls.regular hf
  | item pulls _ ih => exact ih (pulls.regular hf)

theorem PullsAll.raises (h : PullsAll time f bytes items g rest) :
    ∀ e, .error e ∈ items → Raises f.limit e := by
  induction h with
  | done | waiting => simp
  | item pulls _ ih =>
    intro e he
    rcases List.mem_cons.1 he with rfl | hlater
    · exact pulls.raises
    · exact pulls.limit_eq ▸ ih e hlater

/-- **No byte is lost and none is doubled** over several pulls either. -/
theorem PullsAll.bytes_eq (h : PullsAll time f bytes items g rest) :
    f.held ++ bytes = wireOf items ++ (g.held ++ rest) := by
  induction h with
  | done => rfl
  | waiting pulls => exact pulls.bytes_eq
  | @item _ _ _ _ _ _ item items pulls _ ih =>
    rw [pulls.bytes_eq, ih, ← List.append_assoc, ← wireOf_append]
    rfl

/-- The packets of several pulls are whole and within the limit. -/
theorem PullsAll.packets (h : PullsAll time f bytes items g rest) :
    ∀ p ∈ packetsOf items, p.WellFormed ∧ p.payload.length ≤ f.limit := by
  induction h with
  | done | waiting => nofun
  | @item _ _ _ _ _ _ item _ pulls _ ih =>
    rw [pulls.limit_eq] at ih
    cases item with
    | error e => exact ih
    | ok p =>
      refine List.forall_mem_cons.2 ⟨?_, ih⟩
      cases pulls with
      | packet _ _ _ wellFormed fits => exact ⟨wellFormed, fits⟩

/-- What is not read is the end of what came. -/
theorem PullsAll.suffix (h : PullsAll time f bytes items g rest) : rest <:+ bytes := by
  induction h with
  | done => exact List.suffix_refl _
  | waiting pulls => cases pulls; exact List.nil_suffix
  | item pulls _ ih =>
    refine ih.trans ?_
    cases pulls with
    | refused => exact List.suffix_refl _
    | packet | overLimit => exact List.suffix_append _ _

/-- **Reading on demand is pulling several times.** -/
theorem pullsAll_nextUpTo (hf : f.Regular) (time : Instant) (chunk : List UInt8) (n : Nat) :
    let (items, r, _) := (Reading.start f time chunk).nextUpTo n
    PullsAll time f chunk items r.framer r.unread := by
  induction n generalizing f chunk with
  | zero => exact .done
  | succ n ih =>
    have hpulls := pulls_pull hf.intact time chunk
    rcases hpull : f.pull time chunk with ⟨_ | e | p, g, rest⟩ <;> rw [hpull] at hpulls
    · rw [Reading.nextUpTo_of_pull_none hpull]
      exact .waiting hpulls
    · rw [Reading.nextUpTo_of_pull_error hpull]
      exact .item hpulls .done
    · rw [Reading.nextUpTo_of_pull_ok hpull]
      exact .item hpulls (ih (hpulls.regular hf) rest)

/-- Taking a chunk to its end is reading it on demand. -/
theorem pullsAll_feed (h : f.Regular) (time : Instant) (chunk : List UInt8) :
    PullsAll time f chunk (f.feed time chunk).1 (f.feed time chunk).2.1
      (f.feed time chunk).2.2 := by
  have hread := pullsAll_nextUpTo h time chunk (chunk.length + 2)
  rwa [show (Reading.start f time chunk).nextUpTo (chunk.length + 2) = _ from
    f.drain_start time chunk] at hread

end PullsAll

/-! ### Calls -/

section Calls

@[simp] theorem answerAll_nil (f : Framer) : f.answerAll [] = ([], f) := rfl

@[simp] theorem answerAll_cons (f : Framer) (c : Call) (calls : List Call) :
    f.answerAll (c :: calls) =
      ((f.answer c).2.shown (f.answer c).1 :: ((f.answer c).2.answerAll calls).1,
        ((f.answer c).2.answerAll calls).2) := rfl

/-- What a call leaves behind: a framer with the same limit that is as regular as the one before,
after an answer with errors of that limit. -/
structure Leaves (f : Framer) (a : Answer) (g : Framer) : Prop where
  regular : g.Regular
  limit_eq : g.limit = f.limit
  raises : ∀ e ∈ a.errors, Raises f.limit e

theorem PullsAll.leaves {items : List FramedItem} (hf : f.Regular)
    (h : PullsAll time f bytes items g rest) (ended : Bool) :
    f.Leaves (.taken items rest ended) g where
  regular := h.regular hf
  limit_eq := h.limit_eq
  raises := by
    intro e he
    obtain ⟨item, hitem, herror⟩ := List.mem_filterMap.1 he
    cases item with
    | ok p => cases herror
    | error cause =>
      cases herror
      exact h.raises e hitem

theorem leaves_decode (hf : f.Regular) (time : Instant) (source : List UInt8) :
    f.Leaves (f.answer (.decode time source)).1 (f.answer (.decode time source)).2 := by
  have hpulls := pulls_pull hf.intact time source
  rcases hpull : f.pull time source with ⟨_ | e | p, g, rest⟩ <;> rw [hpull] at hpulls
  · simp only [answer, Decoder.decode_of_pull_none hpull]
    exact ⟨hpulls.regular hf, hpulls.limit_eq, nofun⟩
  · simp only [answer, Decoder.decode_of_pull_error hpull]
    exact ⟨hpulls.regular hf, hpulls.limit_eq, List.forall_mem_singleton.2 hpulls.raises⟩
  · simp only [answer, Decoder.decode_of_pull_ok hpull]
    exact ⟨hpulls.regular hf, hpulls.limit_eq, nofun⟩

/-- **Every call leaves a regular framer behind.** -/
theorem leaves_answer (hf : f.Regular) (c : Call) :
    f.Leaves (f.answer c).1 (f.answer c).2 := by
  cases c with
  | feed time chunk => exact (pullsAll_feed hf time chunk).leaves hf true
  | read time chunk times =>
    exact (pullsAll_nextUpTo hf time chunk times).leaves hf _
  | decode time source => exact leaves_decode hf time source
  | decodeEnd time source =>
    have hdecode := leaves_decode hf time source
    rcases Decoder.decodeEnd_cases ⟨f, source⟩ time with hsame | ⟨-, hend⟩
    · simpa only [answer, hsame] using hdecode
    · simp only [answer, hend]
      exact ⟨hdecode.regular, hdecode.limit_eq, nofun⟩
  | reset => exact ⟨hf.reset, rfl, nofun⟩

/-- **So do several calls,** and no answer among theirs has another error. -/
theorem leaves_answerAll (hf : f.Regular) (calls : List Call) :
    (f.answerAll calls).2.Regular ∧ (f.answerAll calls).2.limit = f.limit ∧
      ∀ s ∈ (f.answerAll calls).1, ∀ e ∈ s.answer.errors, Raises f.limit e := by
  induction calls generalizing f with
  | nil => exact ⟨hf, rfl, nofun⟩
  | cons c calls ih =>
    obtain ⟨hregular, hlimit, hraises⟩ := leaves_answer hf c
    obtain ⟨hlast, hsame, hlater⟩ := ih hregular
    rw [answerAll_cons]
    exact ⟨hlast, hsame.trans hlimit, List.forall_mem_cons.2 ⟨hraises, hlimit ▸ hlater⟩⟩

end Calls

end Framer

end TimingFeed
