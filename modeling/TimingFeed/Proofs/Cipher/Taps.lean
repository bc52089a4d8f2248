import TimingFeed.Proofs.Cipher.Exactness

/-!
# Taps in place of a replay

A key bit that is fixed changes the register at every step that mixed the key in. The solver does
not run the keystream again for it, since its taps tell which steps these were. Main statement:
`Solver.absorbAll_replay`.

* `Keystream.drawn key n` is a new keystream of a key after `n` of its bytes, and `salt_drawn`
  leads it back to the register;
* `Solver.Tracks.taps_iff` reads one bit of the taps;
* `Solver.absorb?` takes a byte by shifts that are refused unless they are by an amount below the
  width of a word, and `absorb?_eq` says that none is.
-/

namespace TimingFeed

open Keystream

/-! ### The keystream that is not run again -/

namespace Keystream

/-- A new keystream of a key, after `n` of its bytes. -/
def drawn (key : Word) (n : Nat) : Keystream := ((start key).nextBytes n).2

/-- Whether the next step mixes the key in. -/
def mixesNext (k : Keystream) : Bool := k.salt.getLsbD 0

variable (key : Word) (n : Nat)

theorem salt_drawn : (drawn key n).salt = register key n := by
  rw [drawn, ← after_zero, nextBytes_after, Nat.zero_add, after]

theorem mixesNext_drawn : (drawn key n).mixesNext = mixes key n := by
  rw [mixesNext, salt_drawn, mixes]

end Keystream

/-! ### Shifts that can be refused -/

/-- A word shifted up, unless the amount is negative or not below the width. -/
def shiftUp? (w : Word) (amount : Int) : Option Word :=
  if 0 ≤ amount ∧ amount < 32 then some (w <<< amount.toNat) else none

/-- A word shifted down, unless the amount is negative or not below the width. -/
def shiftDown? (w : Word) (amount : Int) : Option Word :=
  if 0 ≤ amount ∧ amount < 32 then some (w >>> amount.toNat) else none

section Shifts

variable (w : Word) {amount : Int} {n : Nat}

theorem shiftUp?_eq (h : amount = n) (hn : n < 32) : shiftUp? w amount = some (w <<< n) := by
  subst h
  rw [shiftUp?, if_pos ⟨by omega, by omega⟩, Int.toNat_natCast]

theorem shiftDown?_eq (h : amount = n) (hn : n < 32) : shiftDown? w amount = some (w >>> n) := by
  subst h
  rw [shiftDown?, if_pos ⟨by omega, by omega⟩, Int.toNat_natCast]

end Shifts

namespace Solver

/-- Take the next keystream byte by shifts that can be refused. -/
def absorb? (s : Solver) (byte : UInt8) (known : Known) :
    Option (Except RecoveryError Solver) := do
  let older ← shiftDown? s.taps 1
  let latest ← shiftUp? 1#32 31
  let taps := older ||| if s.salt.getLsbD 0 then latest else 0#32
  let moved ← shiftDown? s.salt 1
  let offset := s.offset + 1
  if s.resolved = 0 then
    let key := wordOf byte ^^^ (moved &&& 0xff#32)
    return .ok { key, resolved := 8, salt := moved ^^^ key, taps, offset }
  else
    let salt := moved ^^^ if s.salt.getLsbD 0 then s.key else 0#32
    let diff := diffOf byte salt
    if s.resolved < keyBits then
      if known = .whole ∧ diff &&& 0x7f#32 ≠ 0#32 then return .error (.inconsistent s.offset)
      else if diff.getLsbD 7 then
        -- With all bits fixed the second amount would be negative.
        let bit ← shiftUp? 1#32 s.resolved
        let correction ← shiftDown? taps (31 - s.resolved)
        return .ok { key := s.key ^^^ bit
                     resolved := s.resolved + 1
                     salt := salt ^^^ correction
                     taps, offset }
      else return .ok { s with resolved := s.resolved + 1, salt, taps, offset }
    else if checked known diff = 0#32 then return .ok { s with salt, taps, offset }
    else return .error (.inconsistent s.offset)

/-- No shift is refused: a bit is flipped only while there are bits to fix. -/
theorem absorb?_eq (s : Solver) (byte : UInt8) (known : Known) :
    s.absorb? byte known = some (s.absorb byte known) := by
  have hone : ∀ w : Word, shiftDown? w 1 = some (w >>> 1) := fun w =>
    shiftDown?_eq w rfl (by decide)
  have htop : shiftUp? 1#32 31 = some 0x80000000#32 := shiftUp?_eq 1#32 rfl (by decide)
  simp only [absorb?, hone, htop, Option.bind_eq_bind, Option.bind_some]
  unfold absorb
  -- The amounts that depend on the solver are those of the bit that is flipped.
  by_cases hstart : s.resolved = 0
  · simp only [if_pos hstart]
    rfl
  · by_cases hfixing : s.resolved < keyBits
    · have hlt : s.resolved < 32 := hfixing
      have hbit : shiftUp? 1#32 s.resolved = some (1#32 <<< s.resolved) :=
        shiftUp?_eq 1#32 rfl hlt
      have hback : ∀ w : Word, shiftDown? w (31 - s.resolved) = some (w >>> (31 - s.resolved)) :=
        fun w => shiftDown?_eq w (by omega) (by omega)
      simp only [if_neg hstart, if_pos hfixing, hbit, hback, Option.bind_some, apply_ite some]
      rfl
    · simp only [if_neg hstart, if_neg hfixing, apply_ite some]
      rfl

/-! ### What the taps tell -/

variable {s : Solver} {seen : List (UInt8 × Known)}

/-- Bit `31 - j` of the taps tells whether the step with `j` steps after it mixed the key in. -/
theorem Tracks.taps_iff (h : s.Tracks seen) {j : Nat} (hj : j < 32) :
    s.taps.getLsbD (31 - j) = true ↔
      ∃ i, i + (j + 1) = seen.length ∧ (drawn s.key i).mixesNext = true := by
  simp only [mixesNext_drawn]
  rw [h.taps, getLsbD_tapsOf s.key hj, Bool.and_eq_true, decide_eq_true_iff]
  constructor
  · rintro ⟨hlt, hmix⟩
    exact ⟨seen.length - 1 - j, by omega, hmix⟩
  · rintro ⟨i, hi, hmix⟩
    obtain rfl : i = seen.length - 1 - j := by omega
    exact ⟨by omega, hmix⟩

/-- A byte that fixes a key bit leaves it as it stands, or flips it and corrects the register by
the shifted taps. -/
theorem absorb_fixing_cases (hstart : s.resolved ≠ 0) (hbits : s.resolved < keyBits)
    {byte : UInt8} {known : Known} {t : Solver} (h : s.absorb byte known = .ok t) :
    t.key = s.key ∧ t.salt = step s.key s.salt ∨
      t.key = s.key ^^^ 1#32 <<< s.resolved ∧
        t.salt = step s.key s.salt ^^^ nextTaps s.salt s.taps >>> (31 - s.resolved) := by
  simp only [absorb, if_neg hstart, if_pos hbits] at h
  split at h
  · cases h
  · split at h
    · obtain rfl := Except.ok.inj h
      exact .inr ⟨rfl, rfl⟩
    · obtain rfl := Except.ok.inj h
      exact .inl ⟨rfl, rfl⟩

/-- **The taps replace a replay.** The solver has absorbed some bytes, the first of them known in
full.

* Its register is that of a new keystream of its key after as many bytes.
* Bit `31 - j` of its taps tells whether, in this keystream, the step with `j` steps after it
  mixed the key in; the bit is zero if there was no such step.
* While there are bits to fix, the shifted taps turn the register after the next step into that of
  a new keystream of the key with the next bit flipped, and a byte that flips this bit corrects the
  register so.
* No shift is by the width of a word or more. -/
theorem absorbAll_replay (hfirst : ∀ x ∈ seen.head?, x.2 = .whole)
    (hs : absorbAll {} seen = .ok s) :
    s.salt = (drawn s.key seen.length).salt ∧
    (∀ j < 32, s.taps.getLsbD (31 - j) = true ↔
      ∃ i, i + (j + 1) = seen.length ∧ (drawn s.key i).mixesNext = true) ∧
    (seen ≠ [] → s.resolved < keyBits →
      step s.key s.salt ^^^ nextTaps s.salt s.taps >>> (31 - s.resolved) =
        (drawn (s.key ^^^ 1#32 <<< s.resolved) (seen.length + 1)).salt ∧
      ∀ byte known t, s.absorb byte known = .ok t →
        t.key = s.key ∧ t.salt = step s.key s.salt ∨
          t.key = s.key ^^^ 1#32 <<< s.resolved ∧
            t.salt = step s.key s.salt ^^^ nextTaps s.salt s.taps >>> (31 - s.resolved)) ∧
    ∀ byte known, s.absorb? byte known = some (s.absorb byte known) := by
  have htracks : s.Tracks seen := tracks_nil.of_absorbAll (fun _ => hfirst) hs
  refine ⟨?_, fun j hj => htracks.taps_iff hj, fun hne hbits => ⟨?_, fun byte known t ht => ?_⟩,
    absorb?_eq s⟩
  · rw [salt_drawn, htracks.salt]
  · rw [salt_drawn, htracks.flip_eq hne hbits]
  · have hstart : s.resolved ≠ 0 := by
      rw [htracks.resolved_eq hne hbits]
      exact Nat.succ_ne_zero _
    exact absorb_fixing_cases hstart hbits ht

/-- Forty bytes of a keystream, two of three known in their top bit only. -/
def fortyBytes : List (UInt8 × Known) :=
  (output 0xC0FFEE42#32 40).mapIdx fun i b =>
    if i % 3 = 0 then (b, .whole) else (b ^^^ 0x5A, .topBit)

/-- After forty bytes the taps still tell of the ninth step and no longer of those before it. After
eleven they correct the register for bit 18 of the key, which is one. -/
theorem absorbAll_replay_fortyBytes :
    absorbAll {} fortyBytes = .ok ⟨0xC0FFEE42#32, 32, 0xAE248E2E#32, 0xCB318F7F#32, 40⟩ ∧
      0xAE248E2E#32 = (drawn 0xC0FFEE42#32 40).salt ∧
      (∃ i, i + 32 = 40 ∧ (drawn 0xC0FFEE42#32 i).mixesNext = true) ∧
    absorbAll {} (fortyBytes.take 11) = .ok ⟨0x3EE42#32, 18, 0x83AD3#32, 0xF2200000#32, 11⟩ ∧
      step 0x3EE42#32 0x83AD3#32 ^^^ nextTaps 0x83AD3#32 0xF2200000#32 >>> 13 =
        (drawn 0x7EE42#32 12).salt := by
  have hlate : absorbAll {} fortyBytes =
      .ok ⟨0xC0FFEE42#32, 32, 0xAE248E2E#32, 0xCB318F7F#32, 40⟩ := by decide +kernel
  have hearly : absorbAll {} (fortyBytes.take 11) =
      .ok ⟨0x3EE42#32, 18, 0x83AD3#32, 0xF2200000#32, 11⟩ := by decide +kernel
  have hforty : fortyBytes.length = 40 := by decide +kernel
  have heleven : (fortyBytes.take 11).length = 11 := by decide +kernel
  obtain ⟨hsalt, htaps, -, -⟩ := absorbAll_replay (by decide +kernel) hlate
  obtain ⟨-, -, hflip, -⟩ := absorbAll_replay (by decide +kernel) hearly
  rw [hforty] at hsalt htaps
  rw [heleven] at hflip
  exact ⟨hlate, hsalt, (htaps 31 (by decide)).1 (by decide), hearly,
    (hflip (by decide +kernel) (by decide)).1⟩

end Solver

end TimingFeed
