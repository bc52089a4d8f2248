import TimingFeed.Proofs.Cipher.Register
import Mathlib.Tactic.ByContra

/-!
# What a solver knows

A solver that has absorbed some bytes knows exactly which keys give them. This is the invariant
`Solver.Tracks`: the register and the taps are those of the bits fixed so far, and the keys that
agree with these bits are the keys compatible with the bytes.

* `Compatible key seen` says that a key gives the bytes as far as they are known;
* `Solver.Tracks.flip_eq`: the taps correct the register for a key bit that is flipped;
* `Solver.Tracks.absorb`: one byte keeps the invariant, or no key gives it;
* `Solver.Tracks.absorbAll`: the same for several bytes, up to the first that no key gives;
* `Solver.Tracks.extend_eq`: carrying a solve on absorbs the bytes up to the last key bit.
-/

namespace TimingFeed

open Keystream

/-- The keystream byte at a position, counted from the seed. -/
def Keystream.byteAt (key : Word) (n : Nat) : UInt8 := lowByte (register key (n + 1))

/-- Whether a keystream byte is what was seen, as far as that is known. -/
def Known.Fits (known : Known) (seen byte : UInt8) : Prop :=
  match known with
  | .whole => seen = byte
  | .topBit => seen.toBitVec.getLsbD 7 = byte.toBitVec.getLsbD 7

/-- The key gives the bytes seen, from the seed on. -/
def Compatible (key : Word) (seen : List (UInt8 × Known)) : Prop :=
  ∀ i (x : UInt8 × Known), seen[i]? = some x → x.2.Fits x.1 (byteAt key i)

/-- A byte as a word. -/
def wordOf (byte : UInt8) : Word := byte.toBitVec.setWidth 32

/-! ### Bytes and bits -/

theorem getLsbD_wordOf (byte : UInt8) (i : Nat) :
    (wordOf byte).getLsbD i = byte.toBitVec.getLsbD i := by
  rw [wordOf, BitVec.getLsbD_setWidth]
  by_cases h : i < 32
  · simp [h]
  · rw [BitVec.getLsbD_of_ge byte.toBitVec i (by omega), Bool.and_false]

theorem getLsbD_lowByte (w : Word) {i : Nat} (hi : i < 8) :
    (lowByte w).toBitVec.getLsbD i = w.getLsbD i := by
  rw [lowByte, BitVec.getLsbD_setWidth, decide_eq_true hi, Bool.true_and]

theorem eq_lowByte_iff {byte : UInt8} {w : Word} :
    byte = lowByte w ↔ AgreeBelow 8 (wordOf byte) w := by
  constructor
  · rintro rfl i hi
    rw [getLsbD_wordOf, getLsbD_lowByte w hi]
  · intro h
    apply UInt8.toBitVec_inj.1
    apply BitVec.eq_of_getLsbD_eq
    intro i hi
    rw [← getLsbD_wordOf, getLsbD_lowByte w hi, h i hi]

/-- A byte fits when its top bit is right, and the others too if they are known. -/
theorem fits_iff {known : Known} {byte : UInt8} {w : Word} :
    known.Fits byte (lowByte w) ↔
      (known = .whole → AgreeBelow 7 (wordOf byte) w) ∧
        (wordOf byte).getLsbD 7 = w.getLsbD 7 := by
  cases known with
  | whole =>
    simp only [Known.Fits, eq_lowByte_iff, true_imp_iff]
    exact AgreeBelow.succ_iff (n := 7)
  | topBit =>
    simp only [Known.Fits, getLsbD_lowByte w (show 7 < 8 by omega), getLsbD_wordOf]
    simp

/-- The word whose lowest `n` bits are set. -/
theorem getLsbD_lowMask {n : Nat} (hn : n ≤ 32) (i : Nat) :
    ((BitVec.allOnes n).setWidth 32).getLsbD i = decide (i < n) := by
  rw [BitVec.getLsbD_setWidth, BitVec.getLsbD_allOnes]
  by_cases h : i < n
  · simp [h, show i < 32 by omega]
  · simp [h]

/-- A masked word is zero when it has no bit in the mask. -/
theorem and_eq_zero_iff {u mask : Word} :
    u &&& mask = 0#32 ↔ ∀ i, mask.getLsbD i = true → u.getLsbD i = false := by
  constructor
  · intro h i hi
    have hbit := congrArg (fun v => v.getLsbD i) h
    simpa [BitVec.getLsbD_and, hi] using hbit
  · intro h
    apply BitVec.eq_of_getLsbD_eq
    intro i _
    rw [BitVec.getLsbD_and, BitVec.getLsbD_zero]
    cases hi : mask.getLsbD i
    · rw [Bool.and_false]
    · rw [h i hi, Bool.false_and]

/-- The difference of a byte to the low byte of a register. -/
def diffOf (byte : UInt8) (w : Word) : Word := wordOf byte ^^^ (w &&& 0xff#32)

theorem getLsbD_diffOf (byte : UInt8) (w : Word) {i : Nat} (hi : i < 8) :
    (diffOf byte w).getLsbD i = ((wordOf byte).getLsbD i ^^ w.getLsbD i) := by
  rw [diffOf, BitVec.getLsbD_xor, BitVec.getLsbD_and,
    show 0xff#32 = (BitVec.allOnes 8).setWidth 32 by decide, getLsbD_lowMask (by omega),
    decide_eq_true hi, Bool.and_true]

/-- The difference has no low bits when the low bits agree. -/
theorem diffOf_and_lowMask {n : Nat} (hn : n ≤ 8) (byte : UInt8) (w : Word) :
    diffOf byte w &&& (BitVec.allOnes n).setWidth 32 = 0#32 ↔ AgreeBelow n (wordOf byte) w := by
  rw [and_eq_zero_iff]
  apply forall_congr'
  intro i
  rw [getLsbD_lowMask (by omega), decide_eq_true_eq]
  refine forall_congr' fun hi => ?_
  rw [getLsbD_diffOf byte w (by omega)]
  exact bne_eq_false_iff_eq

/-- The check of a byte after the last key bit looks at what is known of it. -/
theorem checked_eq_zero_iff {known : Known} {byte : UInt8} {w : Word} :
    Solver.checked known (diffOf byte w) = 0#32 ↔ known.Fits byte (lowByte w) := by
  rw [fits_iff]
  cases known with
  | whole =>
    rw [Solver.checked, show 0xff#32 = (BitVec.allOnes 8).setWidth 32 by decide,
      diffOf_and_lowMask (by omega), AgreeBelow.succ_iff (n := 7)]
    simp
  | topBit =>
    rw [Solver.checked, and_eq_zero_iff, show 0x80#32 = BitVec.twoPow 32 7 by decide]
    simp only [BitVec.getLsbD_twoPow]
    constructor
    · intro h
      have h7 := h 7 (by decide)
      rw [getLsbD_diffOf byte w (by omega)] at h7
      exact ⟨by simp, bne_eq_false_iff_eq.1 h7⟩
    · rintro ⟨-, h7⟩ i hi
      have hi7 : i = 7 := by
        by_contra hne
        simp [Ne.symm hne] at hi
      rw [hi7, getLsbD_diffOf byte w (by omega), h7, Bool.xor_self]

/-! ### Compatible keys -/

section Compatible

variable {key : Word} {seen more : List (UInt8 × Known)}

theorem compatible_nil (key : Word) : Compatible key [] := by
  intro i x h
  simp at h

theorem compatible_append :
    Compatible key (seen ++ more) ↔ Compatible key seen ∧
      ∀ i (x : UInt8 × Known), more[i]? = some x →
        x.2.Fits x.1 (byteAt key (seen.length + i)) := by
  constructor
  · intro h
    constructor
    · intro i x hi
      have hlt := (List.getElem?_eq_some_iff.1 hi).1
      exact h i x (by rwa [List.getElem?_append_left hlt])
    · intro i x hi
      exact h (seen.length + i) x (by rwa [List.getElem?_append_right (by omega),
        Nat.add_sub_cancel_left])
  · rintro ⟨hseen, hmore⟩ i x hi
    by_cases hlt : i < seen.length
    · exact hseen i x (by rwa [List.getElem?_append_left hlt] at hi)
    · obtain ⟨j, rfl⟩ := Nat.exists_eq_add_of_le (Nat.le_of_not_lt hlt)
      rw [List.getElem?_append_right (by omega), Nat.add_sub_cancel_left] at hi
      exact hmore j x hi

theorem compatible_concat {byte : UInt8} {known : Known} :
    Compatible key (seen ++ [(byte, known)]) ↔
      Compatible key seen ∧ known.Fits byte (byteAt key seen.length) := by
  rw [compatible_append]
  refine and_congr_right fun _ => ⟨fun h => h 0 _ rfl, fun h i x hi => ?_⟩
  obtain ⟨rfl, rfl⟩ : i = 0 ∧ (byte, known) = x := by
    cases i with
    | zero => simpa using hi
    | succ i => simp at hi
  exact h

end Compatible

namespace Solver

/-- How many key bits so many bytes fix. -/
def bitsAfter (n : Nat) : Nat := if n = 0 then 0 else min (n + 7) keyBits

/-- The solver has absorbed these bytes: its register and taps are those of the bits fixed so
far, and the keys with these bits are the keys compatible with the bytes. -/
structure Tracks (s : Solver) (seen : List (UInt8 × Known)) : Prop where
  offset : s.offset = seen.length
  resolved : s.resolved = bitsAfter seen.length
  salt : s.salt = register s.key seen.length
  taps : s.taps = tapsOf s.key seen.length
  keys : ∀ key, Compatible key seen ↔ AgreeBelow s.resolved key s.key

theorem tracks_nil : ({} : Solver).Tracks [] where
  offset := rfl
  resolved := rfl
  salt := rfl
  taps := rfl
  keys key := by
    have hagree : AgreeBelow 0 key 0#32 := fun i hi => absurd hi (by omega)
    exact iff_of_true (compatible_nil key) hagree

variable {s : Solver} {seen : List (UInt8 × Known)}

/-! ### One byte -/

/-- The first byte gives the lowest eight key bits. -/
theorem Tracks.absorb_first (h : s.Tracks []) (byte : UInt8) :
    ∃ t, s.absorb byte .whole = .ok t ∧ t.Tracks [(byte, .whole)] := by
  -- The seed is odd, so the first step mixes the key in, whatever it is.
  let key := wordOf byte ^^^ (seed >>> 1 &&& 0xff#32)
  have hone : ∀ other : Word, register other 1 = seed >>> 1 ^^^ other := fun other => by
    rw [register_succ, register_zero, step, if_pos (by decide)]
  let first : Solver :=
    { key, resolved := 8, salt := seed >>> 1 ^^^ key, taps := nextTaps seed 0#32, offset := 1 }
  refine ⟨first, ?_, ⟨rfl, rfl, (hone key).symm, rfl, fun other => ?_⟩⟩
  · have hres : s.resolved = 0 := h.resolved
    have hsalt : s.salt = seed := h.salt
    have htaps : s.taps = 0#32 := h.taps
    have hoffset : s.offset = 0 := h.offset
    rw [absorb, if_pos hres, hsalt, htaps, hoffset]
    rfl
  · have hseed : ∀ i < 8, (seed >>> 1 &&& 0xff#32).getLsbD i = (seed >>> 1).getLsbD i := by
      decide
    rw [← List.nil_append [_], compatible_concat, Known.Fits, List.length_nil, byteAt, hone,
      eq_lowByte_iff, and_iff_right (compatible_nil other)]
    refine forall_congr' fun i => forall_congr' fun hi => ?_
    rw [BitVec.getLsbD_xor, BitVec.getLsbD_xor, hseed i hi]
    cases (wordOf byte).getLsbD i <;> cases (seed >>> 1).getLsbD i <;>
      cases other.getLsbD i <;> decide

/-- Some bytes are absorbed and not all bits are fixed: how many are. -/
theorem Tracks.resolved_eq (h : s.Tracks seen) (hn : seen ≠ []) (hb : s.resolved < keyBits) :
    s.resolved = seen.length + 7 := by
  have hlen : seen.length ≠ 0 := fun h0 => hn (List.length_eq_zero_iff.1 h0)
  rw [h.resolved, bitsAfter, if_neg hlen] at hb ⊢
  omega

/-- The register after the next step under the bits fixed so far. -/
theorem Tracks.step_eq (h : s.Tracks seen) :
    step s.key s.salt = register s.key (seen.length + 1) := by
  rw [h.salt, register_succ]

/-- The taps correct the register for the next key bit: the register after the next step becomes
that of the key with this bit flipped. -/
theorem Tracks.flip_eq (h : s.Tracks seen) (hn : seen ≠ []) (hb : s.resolved < keyBits) :
    step s.key s.salt ^^^ nextTaps s.salt s.taps >>> (31 - s.resolved) =
      register (s.key ^^^ 1#32 <<< s.resolved) (seen.length + 1) := by
  have hres := h.resolved_eq hn hb
  rw [register_flip s.key hb (by omega), h.step_eq, h.salt, h.taps]
  rfl

/-- The keys that give one more byte while not all bits are fixed: the low bits of the byte are
those of the register, and its top bit decides the next key bit. -/
theorem Tracks.compatible_iff (h : s.Tracks seen) (hn : seen ≠ []) (hb : s.resolved < keyBits)
    (byte : UInt8) (known : Known) (key : Word) :
    Compatible key (seen ++ [(byte, known)]) ↔
      (known = .whole → AgreeBelow 7 (wordOf byte) (step s.key s.salt)) ∧
        AgreeBelow s.resolved key s.key ∧
          key.getLsbD s.resolved =
            (s.key.getLsbD s.resolved ^^ (diffOf byte (step s.key s.salt)).getLsbD 7) := by
  have hres := h.resolved_eq hn hb
  have hb7 : seen.length + 7 < 32 := hres ▸ hb
  rw [compatible_concat, byteAt, fits_iff, h.keys, h.step_eq, getLsbD_diffOf _ _ (by omega), hres]
  refine Iff.trans (and_congr_right fun hagree => ?_) and_left_comm
  -- The low bits of the byte are those of any key that agrees so far.
  have hlow : AgreeBelow 7 (register key (seen.length + 1)) (register s.key (seen.length + 1)) :=
    register_agree (hagree.mono (by omega))
  refine and_congr (forall_congr' fun _ => ⟨fun hw => hw.trans hlow, fun hw => hw.trans hlow.symm⟩)
    ?_
  rw [topBit_register hagree.symm hb7]
  cases (wordOf byte).getLsbD 7 <;> cases (register s.key (seen.length + 1)).getLsbD 7 <;>
    cases s.key.getLsbD (seen.length + 7) <;> cases key.getLsbD (seen.length + 7) <;> decide

/-- A byte fixes the next key bit: the keys with the new bit are those that give the byte. -/
theorem Tracks.concat (h : s.Tracks seen) (hn : seen ≠ []) (hb : s.resolved < keyBits)
    {byte : UInt8} {known : Known} {key salt : Word}
    (hlow : known = .whole → AgreeBelow 7 (wordOf byte) (step s.key s.salt))
    (hkey : AgreeBelow s.resolved key s.key)
    (hbit : key.getLsbD s.resolved =
      (s.key.getLsbD s.resolved ^^ (diffOf byte (step s.key s.salt)).getLsbD 7))
    (hsalt : salt = register key (seen.length + 1)) :
    Tracks
      { key, salt, resolved := s.resolved + 1, taps := nextTaps s.salt s.taps,
        offset := s.offset + 1 } (seen ++ [(byte, known)]) where
  offset := by rw [h.offset, List.length_append, List.length_singleton]
  resolved := by
    have hres := h.resolved_eq hn hb
    have hlt : seen.length + 7 < 32 := hres ▸ hb
    show s.resolved + 1 = _
    rw [List.length_append, List.length_singleton, bitsAfter, if_neg (by omega), hres, keyBits]
    omega
  salt := by rw [hsalt, List.length_append, List.length_singleton]
  taps := by
    have hres := h.resolved_eq hn hb
    rw [h.salt, h.taps, List.length_append, List.length_singleton]
    exact tapsOf_agree (hkey.symm.mono (by omega))
  keys other := by
    rw [h.compatible_iff hn hb, and_iff_right hlow, ← hbit, AgreeBelow.succ_iff]
    refine and_congr_left fun _ => ⟨fun ho => ho.trans hkey.symm, fun ho => ho.trans hkey⟩

/-- A byte after the first, while not all bits are fixed. -/
theorem Tracks.absorb_fixing (h : s.Tracks seen) (hn : seen ≠ []) (hb : s.resolved < keyBits)
    (byte : UInt8) (known : Known) :
    (∃ t, s.absorb byte known = .ok t ∧ t.Tracks (seen ++ [(byte, known)])) ∨
      s.absorb byte known = .error (.inconsistent seen.length) ∧
        ∀ key, ¬ Compatible key (seen ++ [(byte, known)]) := by
  have hres := h.resolved_eq hn hb
  have hlt : s.resolved < 32 := hb
  have hdiff : byte.toBitVec.setWidth 32 ^^^ (step s.key s.salt &&& 0xff#32) =
      diffOf byte (step s.key s.salt) := rfl
  have hmask : diffOf byte (step s.key s.salt) &&& 0x7f#32 = 0#32 ↔
      AgreeBelow 7 (wordOf byte) (step s.key s.salt) := diffOf_and_lowMask (n := 7) (by omega) _ _
  simp only [absorb, if_neg (show ¬ s.resolved = 0 by omega), if_pos hb, hdiff]
  split
  · next hbad =>
    -- The low bits of the byte contradict every key with the bits fixed so far.
    refine .inr ⟨by rw [h.offset], fun key hkey => ?_⟩
    exact hbad.2 (hmask.2 (((h.compatible_iff hn hb _ _ _).1 hkey).1 hbad.1))
  · next hgood =>
    have hlow : known = .whole → AgreeBelow 7 (wordOf byte) (step s.key s.salt) := fun hk =>
      hmask.1 (by_contra fun hne => hgood ⟨hk, hne⟩)
    split
    · next htop =>
      -- The new bit is one, and the taps correct the register for it.
      refine .inl ⟨_, rfl, h.concat hn hb hlow (agreeBelow_flip s.key hlt) ?_ (h.flip_eq hn hb)⟩
      rw [getLsbD_flip s.key hlt, decide_eq_true rfl, htop]
    · next htop =>
      refine .inl ⟨_, rfl, h.concat hn hb hlow (AgreeBelow.refl _ _) ?_ h.step_eq⟩
      rw [Bool.eq_false_iff.2 htop, Bool.xor_false]

/-- All bits are fixed: there were enough bytes for it. -/
theorem Tracks.resolved_full (h : s.Tracks seen) (hn : seen ≠ []) (hb : ¬ s.resolved < keyBits) :
    s.resolved = keyBits ∧ keyBits ≤ seen.length + 7 := by
  have hlen : seen.length ≠ 0 := fun h0 => hn (List.length_eq_zero_iff.1 h0)
  rw [h.resolved, bitsAfter, if_neg hlen] at hb ⊢
  omega

/-- The keys that give one more byte once all bits are fixed: the one key that is left, if its
next byte fits. -/
theorem Tracks.compatible_iff_checked (h : s.Tracks seen) (hfull : s.resolved = keyBits)
    (byte : UInt8) (known : Known) (key : Word) :
    Compatible key (seen ++ [(byte, known)]) ↔
      AgreeBelow s.resolved key s.key ∧
        checked known (diffOf byte (step s.key s.salt)) = 0#32 := by
  rw [checked_eq_zero_iff, h.step_eq, compatible_concat, h.keys]
  refine and_congr_right fun hagree => ?_
  rw [hfull] at hagree
  rw [hagree.eq, byteAt]

/-- A byte after all bits are fixed is checked against the one key that is left. -/
theorem Tracks.absorb_checking (h : s.Tracks seen) (hn : seen ≠ []) (hb : ¬ s.resolved < keyBits)
    (byte : UInt8) (known : Known) :
    (∃ t, s.absorb byte known = .ok t ∧ t.Tracks (seen ++ [(byte, known)])) ∨
      s.absorb byte known = .error (.inconsistent seen.length) ∧
        ∀ key, ¬ Compatible key (seen ++ [(byte, known)]) := by
  obtain ⟨hfull, hmany⟩ := h.resolved_full hn hb
  have hkeys := h.compatible_iff_checked hfull byte known
  simp only [absorb, if_neg (show ¬ s.resolved = 0 by rw [hfull]; decide), if_neg hb]
  split
  · next hok =>
    refine .inl ⟨_, rfl, ⟨?_, ?_, ?_, ?_, fun key => ?_⟩⟩
    · rw [h.offset, List.length_append, List.length_singleton]
    · rw [List.length_append, List.length_singleton, bitsAfter, if_neg (by omega), hfull]
      omega
    · rw [h.step_eq, List.length_append, List.length_singleton]
    · rw [h.salt, h.taps, List.length_append, List.length_singleton]
      rfl
    · rw [hkeys, and_iff_left]
      exact hok
  · next hbad => exact .inr ⟨by rw [h.offset], fun key hkey => hbad ((hkeys key).1 hkey).2⟩

/-- **A byte that some key gives keeps the invariant; one that no key gives is refused.** The
first byte must be known in full. -/
theorem Tracks.absorb (h : s.Tracks seen) (byte : UInt8) (known : Known)
    (hfirst : seen = [] → known = .whole) :
    (∃ t, s.absorb byte known = .ok t ∧ t.Tracks (seen ++ [(byte, known)])) ∨
      s.absorb byte known = .error (.inconsistent seen.length) ∧
        ∀ key, ¬ Compatible key (seen ++ [(byte, known)]) := by
  by_cases hn : seen = []
  · subst hn
    rw [hfirst rfl]
    exact .inl (h.absorb_first byte)
  · by_cases hb : s.resolved < keyBits
    · exact h.absorb_fixing hn hb byte known
    · exact h.absorb_checking hn hb byte known

/-! ### Several bytes -/

/-- The bits fixed so far make a compatible key. -/
theorem Tracks.compatible (h : s.Tracks seen) : Compatible s.key seen :=
  (h.keys s.key).2 (AgreeBelow.refl _ _)

theorem absorbAll_cons (byte : UInt8) (known : Known) (rest : List (UInt8 × Known)) :
    s.absorbAll ((byte, known) :: rest) =
      (s.absorb byte known).bind fun t => t.absorbAll rest := rfl

/-- **Bytes are absorbed as long as some key gives them all.** The error names the first byte
with which no key is left. -/
theorem Tracks.absorbAll (h : s.Tracks seen) (more : List (UInt8 × Known))
    (hfirst : seen = [] → ∀ x, more.head? = some x → x.2 = .whole) :
    (∃ t, s.absorbAll more = .ok t ∧ t.Tracks (seen ++ more)) ∨
      ∃ i, i < more.length ∧ s.absorbAll more = .error (.inconsistent (seen.length + i)) ∧
        (∃ key, Compatible key (seen ++ more.take i)) ∧
          ∀ key, ¬ Compatible key (seen ++ more.take (i + 1)) := by
  induction more generalizing s seen with
  | nil => exact .inl ⟨s, rfl, by rwa [List.append_nil]⟩
  | cons x rest ih =>
    obtain ⟨byte, known⟩ := x
    have hstart : seen = [] → known = .whole := fun h0 => hfirst h0 (byte, known) rfl
    rcases h.absorb byte known hstart with ⟨t, ht, htracks⟩ | ⟨herror, hnone⟩
    · rw [absorbAll_cons, ht]
      rcases ih htracks (by simp) with ⟨u, hu, hutracks⟩ |
        ⟨i, hi, hu, ⟨key, hkey⟩, hnone⟩
      · exact .inl ⟨u, hu, by simpa using hutracks⟩
      · refine .inr ⟨i + 1, by simpa using hi, ?_, ⟨key, by simpa using hkey⟩, by simpa using hnone⟩
        rw [List.length_append, List.length_singleton, Nat.add_assoc, Nat.add_comm 1 i] at hu
        exact hu
    · refine .inr ⟨0, by simp, ?_, ⟨s.key, by simpa using h.compatible⟩, by simpa using hnone⟩
      rw [absorbAll_cons, herror]
      rfl

/-- Bytes that were absorbed keep the invariant. -/
theorem Tracks.of_absorbAll (h : s.Tracks seen) {more : List (UInt8 × Known)}
    (hfirst : seen = [] → ∀ x, more.head? = some x → x.2 = .whole) {t : Solver}
    (ht : s.absorbAll more = .ok t) : t.Tracks (seen ++ more) := by
  rcases h.absorbAll more hfirst with ⟨u, hu, hutracks⟩ | ⟨i, -, herror, -⟩
  · obtain rfl : u = t := Except.ok.inj (hu.symm.trans ht)
    exact hutracks
  · cases herror.symm.trans ht

/-- Bytes that a key gives are absorbed. -/
theorem Tracks.absorbAll_of_compatible (h : s.Tracks seen) {more : List (UInt8 × Known)}
    (hfirst : seen = [] → ∀ x, more.head? = some x → x.2 = .whole) {key : Word}
    (hkey : Compatible key (seen ++ more)) :
    ∃ t, s.absorbAll more = .ok t ∧ t.Tracks (seen ++ more) := by
  rcases h.absorbAll more hfirst with hok | ⟨i, -, -, -, hnone⟩
  · exact hok
  · rw [← List.take_append_drop (i + 1) more, ← List.append_assoc, compatible_append] at hkey
    exact absurd hkey.1 (hnone key)

/-- How many bytes fix the whole key. -/
def fullBytes : Nat := 25

/-- All bits are fixed when there were enough bytes. -/
theorem Tracks.isComplete_iff (h : s.Tracks seen) :
    s.isComplete = true ↔ fullBytes ≤ seen.length := by
  rw [isComplete, decide_eq_true_iff, h.resolved, bitsAfter, fullBytes, keyBits]
  split <;> omega

/-- With all bits fixed one key is left. -/
theorem Tracks.key_eq (h : s.Tracks seen) (hlen : fullBytes ≤ seen.length) {key : Word}
    (hkey : Compatible key seen) : s.key = key := by
  have hres : s.resolved = keyBits := of_decide_eq_true (h.isComplete_iff.2 hlen)
  have hagree := (h.keys key).1 hkey
  rw [hres] at hagree
  exact hagree.eq.symm

/-- Carrying a solve on absorbs the bytes up to the one that fixes the last bit. -/
theorem Tracks.extend_eq (h : s.Tracks seen) (hn : seen ≠ []) (bytes : List UInt8) :
    s.extend bytes =
      s.absorbAll ((bytes.take (fullBytes - seen.length)).map fun b => (b, .topBit)) := by
  induction bytes generalizing s seen with
  | nil => simp [extend, Solver.absorbAll]
  | cons byte rest ih =>
    by_cases hdone : fullBytes ≤ seen.length
    · rw [extend, if_pos (h.isComplete_iff.2 hdone), Nat.sub_eq_zero_of_le hdone]
      rfl
    · have hleft : fullBytes - seen.length = fullBytes - (seen.length + 1) + 1 := by omega
      rw [extend, if_neg (fun hc => hdone (h.isComplete_iff.1 hc)), hleft, List.take_succ_cons,
        List.map_cons, absorbAll_cons]
      rcases h.absorb byte .topBit (fun h0 => absurd h0 hn) with ⟨t, ht, htracks⟩ | ⟨herror, -⟩
      · rw [ht]
        simpa [Except.bind] using ih htracks (by simp)
      · rw [herror]
        rfl

end Solver

end TimingFeed
