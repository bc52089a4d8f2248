import TimingFeed.Proofs.Framer.Framing

/-!
# What a pull does

Everything that one pull can do to a framer. Later proofs take these cases in place of the
definitions.

* `Framer.Intact`: unless it is poisoned, a framer holds an unfinished packet. Fresh framers are
  intact, and a pull keeps them so;
* `Framer.Pulls` and `pulls_pull`: a pull is refused, or runs out of bytes, or uses the bytes of a
  packet, or uses those of a header over the limit;
* `Pulls.bytes_eq`: in each of these cases no byte is lost and none is doubled.
-/

namespace TimingFeed

namespace Framer

/-- Unless the framer is poisoned, what it holds is an unfinished packet. -/
def Intact (f : Framer) : Prop := f.poisoned = false → Unfinished f.limit f.held

theorem intact_of_held_eq_nil {f : Framer} (h : f.held = []) : f.Intact := by
  intro _
  rw [h]
  exact unfinished_of_short (by decide)

theorem intact_of_poisoned {f : Framer} (h : f.poisoned = true) : f.Intact := by
  intro hsound
  rw [h] at hsound
  cases hsound

/-- One more byte leaves an unfinished packet unfinished, or completes it, or completes a header
that announces too much. -/
theorem Unfinished.concat_cases {limit : Nat} {bytes : List UInt8} (h : Unfinished limit bytes)
    (b : UInt8) :
    Unfinished limit (bytes ++ [b]) ∨
      (∃ (header : Header) (payload : List UInt8), bytes ++ [b] = header.toBytes ++ payload ∧
        header.payloadLength ≤ limit ∧ payload.length = header.payloadLength) ∨
      ∃ header : Header, bytes ++ [b] = header.toBytes ∧ limit < header.payloadLength := by
  rcases short_or_header (bytes ++ [b]) with hs | ⟨header, payload, he⟩
  · exact .inl (unfinished_of_short hs)
  · -- Any other header of these bytes is this one.
    have hsame : ∀ (other : Header) (rest : List UInt8),
        bytes ++ [b] = other.toBytes ++ rest → header = other ∧ payload = rest :=
      fun other rest ho => Header.toBytes_append_inj (he.symm.trans ho)
    rcases List.eq_nil_or_concat payload with rfl | ⟨payload, c, rfl⟩
    · rcases Nat.lt_or_ge limit header.payloadLength with hover | hfits
      · exact .inr (.inr ⟨header, by simpa using he, hover⟩)
      · rcases Nat.eq_zero_or_pos header.payloadLength with hzero | hpos
        · exact .inr (.inl ⟨header, [], he, hfits, hzero.symm⟩)
        · refine .inl fun other rest ho => ?_
          obtain ⟨rfl, rfl⟩ := hsame other rest ho
          exact ⟨hfits, hpos⟩
    · -- The header was there before this byte, so it announces no more than the limit.
      rw [List.concat_eq_append] at he hsame
      rw [← List.append_assoc] at he
      obtain ⟨rfl, -⟩ := List.append_inj' he rfl
      obtain ⟨hfits, hlt⟩ := h header payload rfl
      rcases Nat.lt_or_ge (payload ++ [c]).length header.payloadLength with hmore | hfull
      · refine .inl fun other rest ho => ?_
        obtain ⟨rfl, rfl⟩ := hsame other rest ho
        exact ⟨hfits, hmore⟩
      · refine .inr (.inl ⟨header, payload ++ [c], ?_, hfits, ?_⟩)
        · rw [he, List.append_assoc]
        · rw [List.length_append, List.length_singleton] at hfull ⊢
          omega

/-- What a pull from some bytes can give: the item, the framer after it, the bytes not read. -/
inductive Pulls (f : Framer) (time : Instant) :
    List UInt8 → Option FramedItem → Framer → List UInt8 → Prop
  /-- A poisoned framer reads nothing. -/
  | refused {bytes : List UInt8} (poisoned : f.poisoned = true) :
      Pulls f time bytes (some (.error .poisoned)) f bytes
  /-- All bytes are those of a packet in progress. -/
  | waiting {bytes : List UInt8} (sound : f.poisoned = false)
      (unfinished : Unfinished f.limit (f.held ++ bytes)) :
      Pulls f time bytes none { f with held := f.held ++ bytes } []
  /-- The bytes that complete a packet are used. -/
  | packet {used rest : List UInt8} {p : Packet} (sound : f.poisoned = false)
      (nonempty : used ≠ []) (bytes : p.toBytes = f.held ++ used) (wellFormed : p.WellFormed)
      (fits : p.payload.length ≤ f.limit) (received : p.time = time) :
      Pulls f time (used ++ rest) (some (.ok p)) { f with held := [] } rest
  /-- The bytes that complete a header are used, and it announces too much. -/
  | overLimit {used rest : List UInt8} {header : Header} (sound : f.poisoned = false)
      (nonempty : used ≠ []) (bytes : f.held ++ used = header.toBytes)
      (exceeds : f.limit < header.payloadLength) :
      Pulls f time (used ++ rest)
        (some (.error
          (.lengthExceedsMaximum header.car header.code header.payloadLength f.limit)))
        { f with held := header.toBytes, poisoned := true } rest

variable {f g : Framer} {time : Instant} {bytes rest : List UInt8} {item : Option FramedItem}

/-- A byte that is held does not change what is pulled after it. -/
theorem Pulls.cons {b : UInt8} (hsound : f.poisoned = false)
    (h : Pulls { f with held := f.held ++ [b] } time bytes item g rest) :
    f.Pulls time (b :: bytes) item g rest := by
  have hassoc : ∀ more : List UInt8, (f.held ++ [b]) ++ more = f.held ++ (b :: more) := by simp
  cases h with
  | refused hpoisoned => rw [hsound] at hpoisoned; cases hpoisoned
  | waiting _ hunfinished =>
    simp only [hassoc] at hunfinished ⊢
    exact .waiting hsound hunfinished
  | @packet used rest p _ _ hbytes hwf hfits htime =>
    exact .packet hsound (List.cons_ne_nil b used) (hbytes.trans (hassoc used)) hwf hfits htime
  | @overLimit used rest header _ _ hbytes hover =>
    exact .overLimit hsound (List.cons_ne_nil b used) ((hassoc used).symm.trans hbytes) hover

theorem pulls_pushUntil (hsound : f.poisoned = false) (hheld : Unfinished f.limit f.held)
    (bytes : List UInt8) :
    f.Pulls time bytes (pushUntil time f bytes).1 (pushUntil time f bytes).2.1
      (pushUntil time f bytes).2.2 := by
  induction bytes generalizing f with
  | nil =>
    have hwait : f.Pulls time [] none { f with held := f.held ++ [] } [] :=
      .waiting hsound (by rwa [List.append_nil])
    rwa [List.append_nil] at hwait
  | cons b rest ih =>
    rcases hheld.concat_cases b with hmore | ⟨header, payload, he, hfits, hfull⟩ |
      ⟨header, he, hover⟩
    · simp only [pushUntil, push_unfinished time hmore]
      exact (ih (f := { f with held := f.held ++ [b] }) hsound hmore).cons hsound
    · simp only [pushUntil, push_complete time he hfits hfull]
      exact .packet hsound (List.cons_ne_nil b []) he.symm (Packet.wellFormed_assemble hfull time)
        (hfull.symm ▸ hfits) rfl
    · have hheader : f.held ++ [b] = header.toBytes ++ [] := by rw [he, List.append_nil]
      simp only [pushUntil, push_header time hheader, if_pos hover]
      exact .overLimit hsound (List.cons_ne_nil b []) he hover

/-- **A pull does one of these things.** -/
theorem pulls_pull (h : f.Intact) (time : Instant) (bytes : List UInt8) :
    f.Pulls time bytes (f.pull time bytes).1 (f.pull time bytes).2.1 (f.pull time bytes).2.2 := by
  unfold pull
  split
  · next hpoisoned => exact .refused hpoisoned
  · next hpoisoned =>
    have hsound := eq_false_of_ne_true hpoisoned
    exact pulls_pushUntil hsound (h hsound) bytes

/-- A pull leaves a framer intact. -/
theorem Pulls.intact (h : f.Pulls time bytes item g rest) : g.Intact := by
  cases h with
  | refused poisoned => exact intact_of_poisoned poisoned
  | waiting _ unfinished => exact fun _ => unfinished
  | packet => exact intact_of_held_eq_nil rfl
  | overLimit => exact intact_of_poisoned rfl

/-- **No byte is lost and none is doubled:** what was held and what came are the bytes of the
packet, those that are held, and those that were not read. -/
theorem Pulls.bytes_eq (h : f.Pulls time bytes item g rest) :
    f.held ++ bytes = wireOf item.toList ++ (g.held ++ rest) := by
  cases h with
  | refused => rfl
  | waiting => simp [wireOf]
  | packet _ _ hbytes => simp [hbytes]
  | overLimit _ _ hbytes => simp [← hbytes, wireOf]

end Framer

end TimingFeed
