import TimingFeed.Decoder
import TimingFeed.Proofs.Framer.Pulls

/-!
# The bytes of a decoder

Every byte that was given to a decoder is in a packet, in the packet in progress, or still in the
source buffer. Main statement: `callAll_bytes`. Each byte is in one place only exactly as long as
no header over the limit is found; the bytes of such a header are taken by the framer and stay in
front of the source buffer.

* `Decoder.Call` is what can be done with a decoder, `Decoder.callAll` a run of calls;
* `Decoder.Balance` is the invariant: how the bytes given so far are accounted for;
* `Balance.decode` keeps it over one decoding call, `Balance.callAll` over a whole run.
-/

namespace TimingFeed

/-- The bytes of the packet that a decoding call gave. -/
def Decoded.wire : Decoded → List UInt8
  | .ok (some p) => p.toBytes
  | .ok none | .error _ => []

/-- Whether a decoding call found a header over the limit. -/
def Decoded.isOverLimit : Decoded → Bool
  | .error (.framing (.lengthExceedsMaximum ..)) => true
  | _ => false

namespace Decoder

/-- What can be done with a decoder. -/
inductive Call
  | append (chunk : List UInt8)
  | decode (time : Instant)
  | decodeEnd (time : Instant)
  deriving DecidableEq

/-- The bytes that a call gives to the decoder. -/
def Call.given : Call → List UInt8
  | append chunk => chunk
  | decode _ | decodeEnd _ => []

/-- What a call gives, if it decodes, and the decoder after it. -/
def call (d : Decoder) : Call → Option Decoded × Decoder
  | .append chunk => (none, d.append chunk)
  | .decode time => (some (d.decode time).1, (d.decode time).2)
  | .decodeEnd time => (some (d.decodeEnd time).1, (d.decodeEnd time).2)

/-- Several calls in a row. -/
def callAll : Decoder → List Call → List Decoded × Decoder
  | d, [] => ([], d)
  | d, c :: calls =>
    let (result?, e) := d.call c
    let (results, last) := callAll e calls
    (result?.toList ++ results, last)

/-! ### One decoding call -/

section Decode

variable {f g : Framer} {time : Instant} {source rest : List UInt8}

theorem decode_of_pull_none (h : f.pull time source = (none, g, rest)) :
    decode ⟨f, source⟩ time = (.ok none, ⟨g, rest⟩) := by
  simp only [decode, h]

theorem decode_of_pull_ok {p : Packet} (h : f.pull time source = (some (.ok p), g, rest)) :
    decode ⟨f, source⟩ time = (.ok (some p), ⟨g, rest⟩) := by
  simp only [decode, h]

/-- With an error the framer moves on, but the source buffer does not. -/
theorem decode_of_pull_error {e : FrameError}
    (h : f.pull time source = (some (.error e), g, rest)) :
    decode ⟨f, source⟩ time = (.error (.framing e), ⟨g, source⟩) := by
  simp only [decode, h]

/-- When no more bytes can arrive only what is said of nothing differs. -/
theorem decodeEnd_cases (d : Decoder) (time : Instant) :
    d.decodeEnd time = d.decode time ∨
      (d.decode time).1 = .ok none ∧
        d.decodeEnd time = (.error .connectionClosed, (d.decode time).2) := by
  unfold decodeEnd
  split
  · next e h =>
    rw [h]
    split
    · exact .inl rfl
    · exact .inr ⟨rfl, rfl⟩
  · exact .inl rfl

end Decode

/-! ### The invariant -/

/-- How the bytes that were given are accounted for, when those of some packets were given back
and a header over the limit was found or not. -/
inductive Balance (given : List UInt8) (d : Decoder) : List UInt8 → Bool → Prop
  /-- Each byte is in one place. -/
  | exact {wire : List UInt8} (intact : d.framer.Intact)
      (bytes : wire ++ d.framer.held ++ d.source = given) : Balance given d wire false
  /-- The last bytes that are held, at least one, are in front of the source buffer too. -/
  | doubled {wire before shared : List UInt8} (poisoned : d.framer.poisoned = true)
      (held : d.framer.held = before ++ shared) (nonempty : shared ≠ [])
      (opening : shared <+: d.source) (bytes : wire ++ before ++ d.source = given) :
      Balance given d wire true

variable {given wire : List UInt8} {found : Bool} {d : Decoder}

theorem Balance.append (h : Balance given d wire found) (chunk : List UInt8) :
    Balance (given ++ chunk) (d.append chunk) wire found := by
  cases h with
  | exact intact bytes =>
    refine .exact intact ?_
    rw [← bytes, List.append_assoc _ d.source]
    rfl
  | doubled poisoned held nonempty opening bytes =>
    refine .doubled poisoned held nonempty (opening.trans (List.prefix_append _ _)) ?_
    rw [← bytes, List.append_assoc _ d.source]
    rfl

/-- **A decoding call keeps the bytes accounted for.** -/
theorem Balance.decode (h : Balance given d wire found) (time : Instant) :
    Balance given (d.decode time).2 (wire ++ (d.decode time).1.wire)
      (found || (d.decode time).1.isOverLimit) := by
  obtain ⟨f, source⟩ := d
  cases h with
  | exact intact bytes =>
    have hpulls := Framer.pulls_pull intact time source
    have hbytes := hpulls.bytes_eq
    rw [List.append_assoc, hbytes] at bytes
    rcases hpull : f.pull time source with ⟨_ | e | p, g, rest⟩ <;>
      rw [hpull] at hpulls bytes <;> dsimp only at hpulls bytes
    · rw [decode_of_pull_none hpull]
      exact .exact hpulls.intact (by simpa [Decoded.wire] using bytes)
    · rw [decode_of_pull_error hpull]
      cases hpulls with
      | refused poisoned => exact .exact intact (by simpa [Decoded.wire, wireOf] using bytes)
      | @overLimit used rest header _ nonempty held _ =>
        -- The framer has the used bytes now, and the source buffer still begins with them.
        refine .doubled rfl held.symm nonempty (List.prefix_append used rest) ?_
        simpa [Decoded.wire, wireOf, ← held] using bytes
    · rw [decode_of_pull_ok hpull]
      exact .exact hpulls.intact (by simpa [Decoded.wire] using bytes)
  | doubled poisoned held nonempty opening bytes =>
    -- A poisoned framer refuses the call and nothing moves.
    have hpull : f.pull time source = (some (.error .poisoned), f, source) := if_pos poisoned
    rw [decode_of_pull_error hpull]
    exact .doubled poisoned held nonempty opening (by simpa [Decoded.wire] using bytes)

theorem Balance.decodeEnd (h : Balance given d wire found) (time : Instant) :
    Balance given (d.decodeEnd time).2 (wire ++ (d.decodeEnd time).1.wire)
      (found || (d.decodeEnd time).1.isOverLimit) := by
  have hdecode := h.decode time
  rcases decodeEnd_cases d time with hsame | ⟨hnone, hend⟩
  · rw [hsame]
    exact hdecode
  · rw [hnone] at hdecode
    rw [hend]
    exact hdecode

/-- **So does a run of calls.** -/
theorem Balance.callAll (h : Balance given d wire found) (calls : List Call) :
    Balance (given ++ calls.flatMap Call.given) (d.callAll calls).2
      (wire ++ (d.callAll calls).1.flatMap Decoded.wire)
      (found || (d.callAll calls).1.any Decoded.isOverLimit) := by
  induction calls generalizing d given wire found with
  | nil => simpa [Decoder.callAll] using h
  | cons c calls ih =>
    cases c with
    | append chunk => simpa [Decoder.callAll, call, Call.given] using ih (h.append chunk)
    | decode time =>
      simpa [Decoder.callAll, call, Call.given, Bool.or_assoc] using ih (h.decode time)
    | decodeEnd time =>
      simpa [Decoder.callAll, call, Call.given, Bool.or_assoc] using ih (h.decodeEnd time)

/-- **Where the bytes given to a decoder are.** Unless it is poisoned, the framer at the start holds
an unfinished packet or nothing; then bytes are given and decoded in any order. The bytes of the
packets, those that the framer holds and those in the source buffer make up, in this order, all
bytes given exactly as long as no call found a header over the limit. After that they do so without
the last of the bytes held, which are in front of the source buffer again. -/
theorem callAll_bytes (hd : d.framer.Intact) (calls : List Call) :
    let (results, e) := d.callAll calls
    let given := d.framer.held ++ d.source ++ calls.flatMap Call.given
    let wire := results.flatMap Decoded.wire
    (wire ++ e.framer.held ++ e.source = given ↔
        ∀ result ∈ results, result.isOverLimit = false) ∧
      ∃ before shared, e.framer.held = before ++ shared ∧ shared <+: e.source ∧
        wire ++ before ++ e.source = given := by
  have hstart : Balance (d.framer.held ++ d.source) d [] false := .exact hd rfl
  have hbalance := hstart.callAll calls
  generalize d.callAll calls = run at hbalance
  obtain ⟨results, e⟩ := run
  simp only [List.nil_append, Bool.false_or] at hbalance
  have hfound : results.any Decoded.isOverLimit = false ↔
      ∀ result ∈ results, result.isOverLimit = false := by simp
  simp only [← hfound]
  generalize results.any Decoded.isOverLimit = found at hbalance
  cases hbalance with
  | exact _ bytes =>
    exact ⟨iff_of_true bytes rfl, e.framer.held, [], (List.append_nil _).symm, List.nil_prefix,
      bytes⟩
  | @doubled before shared _ held nonempty opening bytes =>
    refine ⟨iff_of_false ?_ nofun, before, shared, held, opening, bytes⟩
    -- The doubled bytes would count twice.
    intro hexact
    have hlength := congrArg List.length (hexact.trans bytes.symm)
    have hpos := List.length_pos_iff.2 nonempty
    simp only [held, List.length_append] at hlength
    omega

/-- The event of one car and a notice of five bytes, whose header arrives in two pieces. -/
def cutNotice : List Call :=
  [.append [0x05, 0x08, 0xC0], .decode .epoch, .decode .epoch, .append [0x0A, 0x68, 0x65],
    .decode .epoch, .append [0x6C, 0x6C, 0x6F], .decodeEnd .epoch]

/-- With room for the notice it is given whole; without, a byte of its header is in two places. -/
theorem callAll_bytes_cutNotice :
    let wide := ({ framer := .withLimit 5 } : Decoder).callAll cutNotice
    let tight := ({ framer := .withLimit 4 } : Decoder).callAll cutNotice
    wide.1.flatMap Decoded.wire ++ wide.2.framer.held ++ wide.2.source =
        cutNotice.flatMap Call.given ∧
      ∃ before shared, tight.2.framer.held = before ++ shared ∧ shared <+: tight.2.source ∧
        tight.1.flatMap Decoded.wire ++ before ++ tight.2.source = cutNotice.flatMap Call.given :=
  ⟨(callAll_bytes (d := { framer := .withLimit 5 }) (Framer.intact_of_held_eq_nil rfl) _).1.2
      (by decide),
    (callAll_bytes (d := { framer := .withLimit 4 }) (Framer.intact_of_held_eq_nil rfl) _).2⟩

/-- A header over the limit is held by the framer, and none of it leaves the source buffer. -/
theorem overLimit_doubles_header :
    ¬ ∀ (limit : Nat) (calls : List Call),
      let (results, e) := ({ framer := .withLimit limit } : Decoder).callAll calls
      results.flatMap Decoded.wire ++ e.framer.held ++ e.source = calls.flatMap Call.given :=
  fun h => absurd (h 4 [.append [0x05, 0x08, 0xC0, 0x0A, 0x68], .decode .epoch, .decode .epoch])
    (by decide)

end Decoder

end TimingFeed
