import TimingFeed.Proofs.Cipher.Recovery
import Mathlib.Algebra.Group.Nat.Defs
import Mathlib.Data.List.Forall2

/-!
# How far a solve reaches

A solve loses no key and keeps none that is wrong, whatever is known of each byte. Main
statements: `Solver.absorbAll_exact`, and `Marker.recoverKey_of_hidden` for the solve of a single
reference, which gives the whole key from the 25th byte on.

* `Keystream.Gives key seen` compares what was seen with the keystream of a key, byte by byte;
  `gives_iff` leads it back to the register;
* `AgreeBelow.iff_mod_eq` reads the bits fixed so far as a residue of the key.
-/

namespace TimingFeed

open Keystream

/-- Words have the same lowest bits when they are congruent. -/
theorem AgreeBelow.iff_mod_eq {n : Nat} {u v : Word} :
    AgreeBelow n u v ↔ u.toNat % 2 ^ n = v.toNat % 2 ^ n := by
  constructor
  · intro h
    apply Nat.eq_of_testBit_eq
    intro i
    rw [Nat.testBit_mod_two_pow, Nat.testBit_mod_two_pow]
    by_cases hi : i < n
    · have hbit : u.toNat.testBit i = v.toNat.testBit i := h i hi
      rw [hbit]
    · rw [decide_eq_false hi, Bool.false_and, Bool.false_and]
  · intro h i hi
    have hbit := congrArg (fun k => k.testBit i) h
    simp only [Nat.testBit_mod_two_pow, decide_eq_true hi, Bool.true_and] at hbit
    exact hbit

namespace Keystream

variable (key : Word)

/-- The bytes from a position on. -/
theorem nextBytes_after (n k : Nat) :
    nextBytes n (after key k) =
      ((List.range n).map fun i => byteAt key (k + i), after key (k + n)) := by
  induction n generalizing k with
  | zero => rfl
  | succ n ih =>
    have hnext : (after key k).next = (byteAt key k, after key (k + 1)) := rfl
    rw [nextBytes, hnext]
    dsimp only
    rw [ih, List.range_succ_eq_map, List.map_cons, List.map_map]
    simp only [Nat.add_zero, Nat.add_assoc, Nat.add_comm 1]
    rfl

theorem output_eq (n : Nat) : output key n = (List.range n).map (byteAt key) := by
  rw [output, ← after_zero, nextBytes_after]
  simp

/-- The keystream of a key is what was seen, as far as each byte is known. -/
def Gives (seen : List (UInt8 × Known)) : Prop :=
  List.Forall₂ (fun x byte => x.2.Fits x.1 byte) seen (output key seen.length)

variable {key} {seen : List (UInt8 × Known)}

theorem gives_iff : Gives key seen ↔ Compatible key seen := by
  rw [Gives, List.forall₂_iff_get, output_eq]
  simp only [List.length_map, List.length_range, true_and, List.get_eq_getElem, List.getElem_map,
    List.getElem_range]
  constructor
  · intro h i x hx
    obtain ⟨hi, rfl⟩ := List.getElem?_eq_some_iff.1 hx
    exact h i hi hi
  · intro h i hi _
    exact h i _ (List.getElem?_eq_getElem hi)

/-- A key gives the first bytes if it gives all. -/
theorem Gives.take (h : Gives key seen) (n : Nat) : Gives key (seen.take n) := by
  rw [gives_iff] at h ⊢
  rw [← List.take_append_drop n seen, compatible_append] at h
  exact h.1

end Keystream

namespace Solver

variable {seen : List (UInt8 × Known)}

/-- A new solver absorbs bytes as long as some key gives them. -/
theorem absorbAll_start (hfirst : ∀ x ∈ seen.head?, x.2 = .whole) :
    (∃ s, absorbAll {} seen = .ok s ∧ s.Tracks seen) ∨
      ∃ i < seen.length, absorbAll {} seen = .error (.inconsistent i) ∧
        (∃ key, Gives key (seen.take i)) ∧ ∀ key, ¬ Gives key (seen.take (i + 1)) := by
  simp only [gives_iff]
  simpa using tracks_nil.absorbAll seen fun _ => hfirst

/-- **A solve is exact.** The first byte must be known in full, each later one in full or in its
top bit, in any order.

* All bytes are absorbed if and only if some key gives them.
* Then `n` bytes fix `7 + n` bits of the key, 32 at most, and the keys that give the bytes are
  those with these bits.
* Otherwise the error names the first byte with which no key is left. -/
theorem absorbAll_exact (hfirst : ∀ x ∈ seen.head?, x.2 = .whole) :
    ((∃ s, absorbAll {} seen = .ok s) ↔ ∃ key, Gives key seen) ∧
    (∀ s, absorbAll {} seen = .ok s →
      (seen ≠ [] → s.resolved = min 32 (7 + seen.length)) ∧
      ∀ key, Gives key seen ↔ key.toNat % 2 ^ s.resolved = s.key.toNat % 2 ^ s.resolved) ∧
    ∀ e, absorbAll {} seen = .error e → ∃ i < seen.length, e = .inconsistent i ∧
      (∀ key, ¬ Gives key (seen.take (i + 1))) ∧ ∀ j < i, ∃ key, Gives key (seen.take (j + 1)) := by
  rcases absorbAll_start hfirst with ⟨s, hs, htracks⟩ | ⟨i, hi, herror, ⟨key, hkey⟩, hnone⟩
  · refine ⟨iff_of_true ⟨s, hs⟩ ⟨s.key, gives_iff.2 htracks.compatible⟩, fun t ht => ?_, ?_⟩
    · obtain rfl : s = t := Except.ok.inj (hs.symm.trans ht)
      refine ⟨fun hne => ?_, fun key => ?_⟩
      · have hlen : seen.length ≠ 0 := fun h0 => hne (List.length_eq_zero_iff.1 h0)
        rw [htracks.resolved, bitsAfter, if_neg hlen, keyBits, Nat.min_comm, Nat.add_comm]
      · rw [gives_iff, htracks.keys, AgreeBelow.iff_mod_eq]
    · intro e he
      cases hs.symm.trans he
  · refine ⟨iff_of_false ?_ ?_, ?_, ?_⟩
    · rintro ⟨s, hs⟩
      cases herror.symm.trans hs
    · rintro ⟨other, hother⟩
      exact hnone other (hother.take _)
    · intro s hs
      cases herror.symm.trans hs
    · intro e he
      obtain rfl : .inconsistent i = e := Except.error.inj (herror.symm.trans he)
      refine ⟨i, hi, rfl, hnone, fun j hj => ⟨key, ?_⟩⟩
      have hfewer := hkey.take (j + 1)
      rwa [List.take_take, Nat.min_eq_left hj] at hfewer

/-- The first bytes of the keystream of a key, two of them known in their top bit only. -/
def mixedBytes : List (UInt8 × Known) :=
  [(0xA7, .whole), (0x20, .topBit), (0xAF, .whole), (0x20, .topBit)]

/-- The same bytes with a wrong low bit in the third. -/
def wrongBytes : List (UInt8 × Known) :=
  [(0xA7, .whole), (0x20, .topBit), (0xAE, .whole), (0x20, .topBit)]

/-- Four bytes fix eleven bits, and the byte with the wrong bit is found. -/
theorem absorbAll_exact_mixed :
    (∃ s, absorbAll {} mixedBytes = .ok s ∧ s.resolved = 11 ∧
      ∀ key, Gives key mixedBytes ↔ key.toNat % 2 ^ 11 = s.key.toNat % 2 ^ 11) ∧
    absorbAll {} wrongBytes = .error (.inconsistent 2) ∧
      (∀ key, ¬ Gives key (wrongBytes.take 3)) ∧ ∃ key, Gives key (wrongBytes.take 2) := by
  constructor
  · obtain ⟨s, hs⟩ : ∃ s, absorbAll {} mixedBytes = .ok s := ⟨_, rfl⟩
    have hfirst : ∀ x ∈ mixedBytes.head?, x.2 = .whole := by simp [mixedBytes]
    obtain ⟨hresolved, hkeys⟩ := (absorbAll_exact hfirst).2.1 s hs
    have heleven : s.resolved = 11 := hresolved (by decide)
    rw [heleven] at hkeys
    exact ⟨s, hs, heleven, hkeys⟩
  · have herror : absorbAll {} wrongBytes = .error (.inconsistent 2) := by rfl
    have hfirst : ∀ x ∈ wrongBytes.head?, x.2 = .whole := by simp [wrongBytes]
    obtain ⟨i, -, heq, hnone, hsome⟩ := (absorbAll_exact hfirst).2.2 _ herror
    obtain rfl : 2 = i := RecoveryError.inconsistent.inj heq
    exact ⟨herror, hnone, hsome 1 (by decide)⟩

end Solver

namespace Marker

variable {m : Marker} {key : Word} {reference : Packet}

/-- As long as the count does not wrap, a reference fixes as many bits as a solve over so many
bytes. -/
theorem resolvableBits_eq (h : m.plaintext.length + 7 < UInt32.size) :
    m.resolvableBits = Solver.bitsAfter m.plaintext.length := by
  have hcount : (UInt32.ofNat m.plaintext.length + 7).toNat = m.plaintext.length + 7 := by
    rw [UInt32.toNat_add, UInt32.toNat_ofNat_of_lt' (Nat.lt_of_add_right_lt h)]
    exact Nat.mod_eq_of_lt h
  simp only [resolvableBits, Solver.bitsAfter, hcount, List.length_eq_zero_iff]

/-- **One reference is enough from the 25th byte on.** A reference that hides the plaintext under
a key other than 0 gives this key, or says how many bits it fixes. Bytes that look like a marker
in clear make no difference. -/
theorem recoverKey_of_hidden (hkey : key ≠ 0#32) (hkind : reference.systemKind? = some m.kind)
    (hpayload : reference.payload = ((start key).apply m.plaintext).1) :
    (25 ≤ m.plaintext.length → m.recoverKey reference = .ok key) ∧
    (m.plaintext.length < 25 →
      m.recoverKey reference = .error (.underdetermined m.resolvableBits) ∧
      m.resolvableBits = if m.plaintext = [] then 0 else 7 + m.plaintext.length) := by
  have htext : reference.payload = m.plaintext.mapIdx fun i b => b ^^^ byteAt key (0 + i) := by
    rw [hpayload, apply, key_start, if_neg hkey, ← after_zero, mask_after]
  obtain ⟨solver, hanchor, htracks, hcompatible, hlen⟩ := anchor_of_hidden hkind htext
  rw [recoverKey, hanchor]
  dsimp only
  constructor
  · intro hmany
    rw [← hlen] at hmany
    rw [if_pos (htracks.isComplete_iff.2 hmany), htracks.key_eq hmany hcompatible]
  · intro hfew
    have hbits : m.resolvableBits = Solver.bitsAfter m.plaintext.length :=
      resolvableBits_eq (by rw [UInt32.size]; omega)
    have hpartial : ¬ solver.isComplete = true := fun hc =>
      Nat.not_le.2 hfew (hlen ▸ htracks.isComplete_iff.1 hc)
    refine ⟨by rw [if_neg hpartial, htracks.resolved, hlen, hbits], ?_⟩
    simp only [hbits, Solver.bitsAfter, keyBits, List.length_eq_zero_iff]
    split
    · rfl
    · omega

/-- A notice that is hidden behind `img:` and zeros. -/
def disguisedNotice (zeros : Nat) : Marker :=
  ⟨.notice, ((start 0xB00BF00D#32).apply (clearOpening ++ List.replicate zeros 0)).1⟩

/-- That notice as it stands on the wire. -/
def disguisedReference (zeros : Nat) : Packet :=
  .assemble ⟨0xC0, .ofNat (2 * (zeros + 4))⟩ (clearOpening ++ List.replicate zeros 0) .epoch

/-- A reference that looks like one in clear gives its key if it is long enough. -/
theorem recoverKey_of_hidden_disguised :
    (disguisedReference 21).WellFormed ∧ clearOpening <+: (disguisedReference 21).payload ∧
      (disguisedNotice 21).recoverKey (disguisedReference 21) = .ok 0xB00BF00D#32 ∧
      (disguisedNotice 0).recoverKey (disguisedReference 0) = .error (.underdetermined 11) := by
  have hpayload : ∀ zeros, (disguisedReference zeros).payload =
      ((start 0xB00BF00D#32).apply (disguisedNotice zeros).plaintext).1 := fun zeros =>
    (congrArg Prod.fst (apply_apply _ _)).symm
  have hlong := recoverKey_of_hidden (m := disguisedNotice 21) (by decide) (by decide) (hpayload 21)
  have hshort := recoverKey_of_hidden (m := disguisedNotice 0) (by decide) (by decide) (hpayload 0)
  obtain ⟨hkey, hbits⟩ := hshort.2 (by decide +kernel)
  have heleven : (disguisedNotice 0).resolvableBits = 11 := hbits.trans (by decide +kernel)
  rw [heleven] at hkey
  exact ⟨by decide +kernel, by decide +kernel, hlong.1 (by decide +kernel), hkey⟩

end Marker

end TimingFeed
