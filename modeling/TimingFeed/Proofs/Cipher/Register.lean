import TimingFeed.Cipher.Solver

/-!
# The register of a key

The keystream of a key is the low byte of a register that is stepped from a fixed seed. A key
bit reaches the low byte only after many steps, and until then the register depends on the bits
below it alone.

* `Keystream.register key n` is the register after `n` steps and `Keystream.tapsOf key n` the
  record of the steps that mixed the key in;
* `register_agree`: keys with the same low bits have registers with the same low bits;
* `register_flip`: flipping a key bit before it can act twice adds the shifted taps;
* `topBit_register`: the first new key bit of a step decides the top bit of the byte.
-/

namespace TimingFeed

/-- Two words with the same lowest `n` bits. -/
def AgreeBelow (n : Nat) (u v : Word) : Prop := ∀ i < n, u.getLsbD i = v.getLsbD i

namespace AgreeBelow

variable {n m : Nat} {u v w : Word}

@[simp] theorem refl (n : Nat) (u : Word) : AgreeBelow n u u := fun _ _ => rfl

theorem symm (h : AgreeBelow n u v) : AgreeBelow n v u := fun i hi => (h i hi).symm

theorem trans (h : AgreeBelow n u v) (h' : AgreeBelow n v w) : AgreeBelow n u w :=
  fun i hi => (h i hi).trans (h' i hi)

theorem mono (h : AgreeBelow n u v) (hm : m ≤ n) : AgreeBelow m u v :=
  fun i hi => h i (by omega)

theorem succ_iff : AgreeBelow (n + 1) u v ↔ AgreeBelow n u v ∧ u.getLsbD n = v.getLsbD n := by
  constructor
  · exact fun h => ⟨h.mono (by omega), h n (by omega)⟩
  · rintro ⟨h, hn⟩ i hi
    rcases Nat.lt_succ_iff_lt_or_eq.1 hi with hlt | rfl
    · exact h i hlt
    · exact hn

/-- Words that agree in all their bits are equal. -/
theorem eq (h : AgreeBelow 32 u v) : u = v := BitVec.eq_of_getLsbD_eq fun i hi => h i hi

end AgreeBelow

/-- Flipping a bit changes that bit only. -/
theorem getLsbD_flip (u : Word) {b : Nat} (hb : b < 32) (i : Nat) :
    (u ^^^ 1#32 <<< b).getLsbD i = (u.getLsbD i ^^ decide (i = b)) := by
  rw [BitVec.getLsbD_xor, ← BitVec.twoPow_eq, BitVec.getLsbD_twoPow]
  by_cases h : b = i
  · subst h
    simp [hb]
  · simp [h, Ne.symm h]

theorem agreeBelow_flip (u : Word) {b : Nat} (hb : b < 32) :
    AgreeBelow b (u ^^^ 1#32 <<< b) u := by
  intro i hi
  rw [getLsbD_flip u hb, decide_eq_false (by omega), Bool.xor_false]

namespace Keystream

/-- The register after so many steps from the seed. -/
def register (key : Word) : Nat → Word
  | 0 => seed
  | n + 1 => step key (register key n)

/-- Whether step `n`, counted from 0, mixes the key in. -/
def mixes (key : Word) (n : Nat) : Bool := (register key n).getLsbD 0

/-- The taps after so many steps: bit 31 tells of the latest step, bit 30 of the one before. -/
def tapsOf (key : Word) : Nat → Word
  | 0 => 0#32
  | n + 1 => Solver.nextTaps (register key n) (tapsOf key n)

variable (key salt : Word)

@[simp] theorem register_zero : register key 0 = seed := rfl

theorem register_succ (n : Nat) : register key (n + 1) = step key (register key n) := rfl

theorem mixes_zero : mixes key 0 = true := show seed.getLsbD 0 = true by decide

theorem getLsbD_step (i : Nat) :
    (step key salt).getLsbD i =
      (salt.getLsbD (i + 1) ^^ (salt.getLsbD 0 && key.getLsbD i)) := by
  rw [step, BitVec.getLsbD_xor, BitVec.getLsbD_ushiftRight, Nat.add_comm 1 i]
  cases salt.getLsbD 0 <;> simp

theorem getLsbD_nextTaps (taps : Word) (i : Nat) :
    (Solver.nextTaps salt taps).getLsbD i =
      (taps.getLsbD (i + 1) || (salt.getLsbD 0 && decide (i = 31))) := by
  have hmask : (0x80000000#32).getLsbD i = decide (i = 31) := by
    rw [show 0x80000000#32 = BitVec.twoPow 32 31 by decide, BitVec.getLsbD_twoPow]
    by_cases h : 31 = i
    · subst h
      rfl
    · simp [h, Ne.symm h]
  rw [Solver.nextTaps, BitVec.getLsbD_or, BitVec.getLsbD_ushiftRight, Nat.add_comm 1 i]
  cases salt.getLsbD 0
  · simp
  · simp [hmask]

/-- Bit `31 - j` of the taps tells whether the step `j` steps ago mixed the key in. -/
theorem getLsbD_tapsOf {j : Nat} (hj : j < 32) (n : Nat) :
    (tapsOf key n).getLsbD (31 - j) = (decide (j < n) && mixes key (n - 1 - j)) := by
  induction n generalizing j with
  | zero => simp [tapsOf]
  | succ n ih =>
    rw [tapsOf, getLsbD_nextTaps]
    cases j with
    | zero =>
      -- The shift has left the top bit empty for the step just taken.
      rw [BitVec.getLsbD_of_ge _ _ (by omega)]
      simp [mixes]
    | succ j =>
      rw [show 31 - (j + 1) + 1 = 31 - j by omega, ih (by omega),
        decide_eq_false (show ¬ 31 - (j + 1) = 31 by omega), Bool.and_false, Bool.or_false,
        show n + 1 - 1 - (j + 1) = n - 1 - j by omega]
      simp

/-- Keys with the same low bits have registers with the same low bits: after `n` steps the
lowest `c + 1` bits depend on the lowest `n + c` bits of the key. -/
theorem register_agree {key other : Word} {n c : Nat} (h : AgreeBelow (n + c) key other) :
    AgreeBelow (c + 1) (register key n) (register other n) := by
  induction n generalizing c with
  | zero => exact AgreeBelow.refl _ _
  | succ n ih =>
    intro i hi
    -- The shift brings bit `i + 1` down, so one bit more must have agreed before the step.
    have hregister := ih (c := c + 1) (h.mono (by omega))
    rw [register_succ, register_succ, getLsbD_step, getLsbD_step, hregister (i + 1) (by omega),
      hregister 0 (by omega), h i (by omega)]

theorem mixes_agree {key other : Word} {n : Nat} (h : AgreeBelow n key other) :
    mixes key n = mixes other n := register_agree (c := 0) h 0 (by omega)

theorem tapsOf_agree {key other : Word} {n : Nat} (h : AgreeBelow n key other) :
    tapsOf key (n + 1) = tapsOf other (n + 1) := by
  apply BitVec.eq_of_getLsbD_eq
  intro i hi
  rw [show i = 31 - (31 - i) by omega, getLsbD_tapsOf key (by omega),
    getLsbD_tapsOf other (by omega)]
  congr 1
  exact mixes_agree (h.mono (by omega))

/-- A bit of the taps shifted down to a key bit. -/
theorem getLsbD_shifted_taps {b : Nat} (hb : b < 32) (n i : Nat) :
    (tapsOf key n >>> (31 - b)).getLsbD i =
      (decide (i ≤ b ∧ b < n + i) && mixes key (n + i - 1 - b)) := by
  rw [BitVec.getLsbD_ushiftRight]
  by_cases hi : i ≤ b
  · rw [show 31 - b + i = 31 - (b - i) by omega, getLsbD_tapsOf key (by omega),
      show n - 1 - (b - i) = n + i - 1 - b by omega]
    congr 1
    exact decide_eq_decide.2 (by omega)
  · rw [BitVec.getLsbD_of_ge _ _ (by omega), decide_eq_false (by omega), Bool.false_and]

/-- The taps shifted down to a key bit move as the register does: a step shifts them and mixes
that one bit in. -/
theorem shifted_taps_succ {b : Nat} (hb : b < 32) (n : Nat) :
    tapsOf key (n + 1) >>> (31 - b) =
      tapsOf key n >>> (31 - b) >>> 1 ^^^ if mixes key n then 1#32 <<< b else 0#32 := by
  apply BitVec.eq_of_getLsbD_eq
  intro i hi
  have hbit : (if mixes key n then 1#32 <<< b else 0#32).getLsbD i =
      (mixes key n && decide (i = b)) := by
    have hflip := getLsbD_flip 0#32 hb i
    rw [BitVec.zero_xor, BitVec.getLsbD_zero, Bool.false_xor] at hflip
    cases mixes key n
    · simp
    · simpa using hflip
  rw [BitVec.getLsbD_xor, hbit, getLsbD_shifted_taps key hb, BitVec.getLsbD_ushiftRight,
    Nat.add_comm 1 i, getLsbD_shifted_taps key hb,
    show n + (i + 1) - 1 - b = n + i - b by omega, show n + 1 + i - 1 - b = n + i - b by omega]
  -- At `b` itself the shifted taps are empty and the new bit stands alone.
  by_cases h : i = b
  · subst h
    rw [Nat.add_sub_cancel, decide_eq_true (show i ≤ i ∧ i < n + 1 + i by omega),
      decide_eq_false (show ¬ (i + 1 ≤ i ∧ i < n + (i + 1)) by omega)]
    simp
  · rw [decide_eq_false h, Bool.and_false, Bool.xor_false]
    congr 1
    exact decide_eq_decide.2 (by omega)

/-- Flipping a key bit that has had no effect on the steps so far adds the shifted taps to the
register. -/
theorem register_flip {b n : Nat} (hb : b < 32) (hn : n ≤ b + 1) :
    register (key ^^^ 1#32 <<< b) n = register key n ^^^ tapsOf key n >>> (31 - b) := by
  induction n with
  | zero => simp [tapsOf]
  | succ n ih =>
    -- The step mixes the key in on both sides or on neither.
    have hmix : mixes (key ^^^ 1#32 <<< b) n = mixes key n :=
      mixes_agree ((agreeBelow_flip key hb).mono (by omega))
    rw [register_succ, register_succ, step, step, ← mixes, ← mixes, hmix, ih (by omega),
      shifted_taps_succ key hb, BitVec.ushiftRight_xor_distrib]
    cases mixes key n
    · simp
    · simp only [if_true]
      ac_rfl

/-- The top bit of the byte after `n + 1` steps is decided by key bit `n + 7`, once the bits
below it are known. -/
theorem topBit_register {key other : Word} {n : Nat} (h : AgreeBelow (n + 7) key other)
    (hn : n + 7 < 32) :
    (register other (n + 1)).getLsbD 7 =
      ((register key (n + 1)).getLsbD 7 ^^ (key.getLsbD (n + 7) ^^ other.getLsbD (n + 7))) := by
  by_cases hbit : key.getLsbD (n + 7) = other.getLsbD (n + 7)
  · have hagree : AgreeBelow (n + 1 + 7) key other :=
      (AgreeBelow.succ_iff.2 ⟨h, hbit⟩).mono (by omega)
    rw [hbit, Bool.xor_self, Bool.xor_false, register_agree hagree 7 (by omega)]
  · -- The other key is the flipped one as far as the byte can tell.
    have hagree : AgreeBelow (n + 7 + 1) (key ^^^ 1#32 <<< (n + 7)) other := by
      refine AgreeBelow.succ_iff.2 ⟨(agreeBelow_flip key hn).trans h, ?_⟩
      rw [getLsbD_flip key hn, decide_eq_true rfl, Bool.xor_true]
      exact Bool.not_eq.2 hbit
    rw [← register_agree (hagree.mono (show n + 1 + 7 ≤ n + 7 + 1 by omega)) 7 (by omega),
      register_flip key hn (by omega), BitVec.getLsbD_xor, getLsbD_shifted_taps key hn,
      decide_eq_true (by omega), show n + 1 + 7 - 1 - (n + 7) = 0 by omega, mixes_zero,
      Bool.eq_not.2 (Ne.symm hbit)]
    simp

end Keystream

end TimingFeed
