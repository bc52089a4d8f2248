import TimingFeed.Cipher.Marker
import TimingFeed.Proofs.Cipher.Stream
import Mathlib.Data.List.Basic

/-!
# What a recovered key is worth

A key that is read off one reference packet shows the text of the marker again. Main statement:
`decrypts_of_recoverKey`. The exception is the key 0: a solve can end with it, and no cipher is
applied under it, so the reference stays as it is.

* `clearOpening_prefix_of_anchor` and `tracks_of_anchor` say what a reference tells, and
  `anchor_of_hidden` that one which hides the plaintext is solved;
* `mask_of_compatible` turns a compatible key into a decryption.
-/

namespace TimingFeed

open Keystream

namespace Marker

variable {m : Marker} {reference : Packet} {key : Word}

/-! ### What a reference tells -/

/-- A feed is taken for one in clear by the opening of its reference. -/
theorem clearOpening_prefix_of_anchor (h : m.anchor reference = .ok .inClear) :
    clearOpening <+: reference.payload := by
  unfold anchor at h
  split at h
  · cases h
  · dsimp only at h
    split at h
    · cases h
    · split at h
      · next hopening => exact List.isPrefixOf_iff_prefix.1 hopening
      · cases h

/-- The bytes under a reference are all known in full. -/
theorem known_keystreamUnder (payload : List UInt8) {x : UInt8 × Known}
    (h : x ∈ m.keystreamUnder payload) : x.2 = .whole := by
  rw [keystreamUnder, List.mem_map] at h
  obtain ⟨b, -, rfl⟩ := h
  rfl

theorem length_keystreamUnder {payload : List UInt8}
    (h : payload.length = m.plaintext.length) :
    (m.keystreamUnder payload).length = payload.length := by
  rw [keystreamUnder, List.length_map, List.length_zipWith, h, Nat.min_self]

/-- A solve has absorbed the bytes under a reference of the right category and length. -/
theorem tracks_of_anchor {solver : Solver} (h : m.anchor reference = .ok (.solving solver)) :
    reference.payload.length = m.plaintext.length ∧
      solver.Tracks (m.keystreamUnder reference.payload) := by
  unfold anchor at h
  split at h
  · cases h
  · dsimp only at h
    split at h
    · next hsolution =>
      cases h
      split at hsolution
      · next hlen =>
        have hwhole : ∀ x, (m.keystreamUnder reference.payload).head? = some x → x.2 = .whole :=
          fun x hx => known_keystreamUnder _ (List.mem_of_mem_head? hx)
        exact ⟨hlen, Solver.tracks_nil.of_absorbAll (fun _ => hwhole) hsolution⟩
      · cases hsolution
    · split at h <;> cases h

/-- A hidden plaintext gives the first bytes of the keystream. -/
theorem compatible_of_hidden {payload : List UInt8}
    (h : payload = m.plaintext.mapIdx fun i b => b ^^^ byteAt key (0 + i)) :
    Compatible key (m.keystreamUnder payload) := by
  subst h
  intro i x hi
  rw [keystreamUnder, List.getElem?_map, Option.map_eq_some_iff] at hi
  obtain ⟨c, hc, rfl⟩ := hi
  obtain ⟨y, b, hy, hb, rfl⟩ := List.getElem?_zipWith_eq_some.1 hc
  rw [List.getElem?_mapIdx, hb, Option.map_some, Option.some_inj] at hy
  rw [Known.Fits, ← hy, Nat.zero_add, UInt8.xor_comm b, UInt8.xor_assoc, UInt8.xor_self,
    UInt8.xor_zero]

/-- A reference that hides the plaintext is solved, whatever its bytes look like. -/
theorem anchor_of_hidden (hkind : reference.systemKind? = some m.kind)
    (htext : reference.payload = m.plaintext.mapIdx fun i b => b ^^^ byteAt key (0 + i)) :
    ∃ solver, m.anchor reference = .ok (.solving solver) ∧
      solver.Tracks (m.keystreamUnder reference.payload) ∧
      Compatible key (m.keystreamUnder reference.payload) ∧
      (m.keystreamUnder reference.payload).length = m.plaintext.length := by
  have hlen : reference.payload.length = m.plaintext.length := by rw [htext, List.length_mapIdx]
  have hcompatible := compatible_of_hidden htext
  have hwhole : ∀ x, (m.keystreamUnder reference.payload).head? = some x → x.2 = .whole :=
    fun x hx => known_keystreamUnder _ (List.mem_of_mem_head? hx)
  -- The solve starts from nothing, and the bytes of a marker are all known in full.
  obtain ⟨solver, hsolver, htracks⟩ :
      ∃ solver, Solver.absorbAll {} (m.keystreamUnder reference.payload) = .ok solver ∧
        solver.Tracks (m.keystreamUnder reference.payload) :=
    Solver.tracks_nil.absorbAll_of_compatible (fun _ => hwhole) hcompatible
  refine ⟨solver, ?_, htracks, hcompatible, (length_keystreamUnder hlen).trans hlen⟩
  simp only [anchor, hkind, ne_eq, not_true_eq_false, if_false, if_pos hlen, hsolver]

/-! ### Compatible keys decrypt -/

/-- A key that gives the bytes under a reference gives the plaintext back. -/
theorem mask_of_compatible {payload : List UInt8} (hlen : payload.length = m.plaintext.length)
    (h : Compatible key (m.keystreamUnder payload)) :
    ((start key).mask payload).1 = m.plaintext := by
  rw [← after_zero, mask_after]
  refine List.ext_getElem (by rw [List.length_mapIdx, hlen]) fun i hi hi' => ?_
  rw [List.length_mapIdx] at hi
  have hbyte : (m.keystreamUnder payload)[i]? = some (payload[i] ^^^ m.plaintext[i], .whole) := by
    rw [keystreamUnder, List.getElem?_map, List.getElem?_zipWith, List.getElem?_eq_getElem hi,
      List.getElem?_eq_getElem hi']
    rfl
  have hfits : payload[i] ^^^ m.plaintext[i] = byteAt key i := h i _ hbyte
  rw [List.getElem_mapIdx, Nat.zero_add, ← hfits, ← UInt8.xor_assoc, UInt8.xor_self,
    UInt8.zero_xor]

/-- The register of the key 0 still shifts the seed: it changes the first byte of a payload. -/
theorem mask_zero_ne_self {payload : List UInt8} (h : payload ≠ []) :
    ((start 0#32).mask payload).1 ≠ payload := by
  obtain ⟨b, rest, rfl⟩ := List.exists_cons_of_ne_nil h
  intro heq
  have hfirst : b ^^^ ((start 0#32).next).1 = b := (List.cons.inj heq).1
  rw [show ((start 0#32).next).1 = 0xAA by decide] at hfirst
  have hzero := congrArg (b ^^^ ·) hfirst
  simp only [← UInt8.xor_assoc, UInt8.xor_self, UInt8.zero_xor] at hzero
  exact absurd hzero (by decide)

/-- The whole key comes from a reference in clear, as 0, or from a solve of enough bytes. -/
theorem recoverKey_cases (h : m.recoverKey reference = .ok key) :
    key = 0#32 ∧ clearOpening <+: reference.payload ∨
      reference.payload ≠ [] ∧ ((start key).mask reference.payload).1 = m.plaintext := by
  unfold recoverKey at h
  split at h
  · cases h
  · next hanchor =>
    cases h
    exact .inl ⟨rfl, clearOpening_prefix_of_anchor hanchor⟩
  · next solver hanchor =>
    obtain ⟨hlen, htracks⟩ := tracks_of_anchor hanchor
    split at h
    · next hcomplete =>
      cases h
      have hmany := htracks.isComplete_iff.1 hcomplete
      rw [length_keystreamUnder hlen] at hmany
      refine .inr ⟨?_, mask_of_compatible hlen htracks.compatible⟩
      rintro hempty
      rw [hempty] at hmany
      exact absurd hmany (by decide)
    · cases h

/-- **A recovered key decrypts its reference, except the key 0 of a solve.** Either the reference
was sent in clear and the key is 0, or the register of the key turns the payload into the
marker's plaintext. Applying the key does the same unless it is 0: exactly then, and if the
reference does not open like one in clear, the plaintext is not shown. -/
theorem decrypts_of_recoverKey (h : m.recoverKey reference = .ok key) :
    (key = 0#32 ∧ clearOpening <+: reference.payload ∨
        ((start key).mask reference.payload).1 = m.plaintext) ∧
      ((key = 0#32 ∧ clearOpening <+: reference.payload ∨
          ((start key).apply reference.payload).1 = m.plaintext) ↔
        key ≠ 0#32 ∨ clearOpening <+: reference.payload) := by
  have hcases := recoverKey_cases h
  refine ⟨hcases.imp_right And.right, ?_⟩
  by_cases hkey : key = 0#32
  · subst hkey
    have happly : ((start 0#32).apply reference.payload).1 = reference.payload := rfl
    constructor
    · rintro (⟨-, hopening⟩ | hshown)
      · exact .inr hopening
      · -- The payload cannot be the plaintext and hide it at the same time.
        rcases hcases with ⟨-, hopening⟩ | ⟨hne, hmask⟩
        · exact .inr hopening
        · exact absurd (hmask.trans (hshown.symm.trans happly)) (mask_zero_ne_self hne)
    · rintro (hne | hopening)
      · exact absurd rfl hne
      · exact .inl ⟨rfl, hopening⟩
  · have happly : (start key).apply reference.payload = (start key).mask reference.payload :=
      if_neg hkey
    refine iff_of_true (.inr ?_) (.inl hkey)
    rcases hcases with ⟨hzero, -⟩ | ⟨-, hmask⟩
    · exact absurd hzero hkey
    · rw [happly, hmask]

/-- A notice that is long enough for a whole key. -/
def longNotice : Marker := ⟨.notice, bytesOf "Please Wait for the event"⟩

/-- The long notice as it stands on the wire under a register that starts with this key. -/
def longReference (key : Word) : Packet :=
  .assemble ⟨0xC0, 0x32⟩ ((start key).mask longNotice.plaintext).1 .epoch

/-- A key with its highest bit set. -/
theorem decrypts_longReference :
    longNotice.recoverKey (longReference 0xB00BF00D#32) = .ok 0xB00BF00D#32 ∧
      ((start 0xB00BF00D#32).apply (longReference 0xB00BF00D#32).payload).1 =
        longNotice.plaintext := by
  have hkey : longNotice.recoverKey (longReference 0xB00BF00D#32) = .ok 0xB00BF00D#32 := by
    decide +kernel
  refine ⟨hkey, ?_⟩
  rcases (decrypts_of_recoverKey hkey).2.2 (.inl (by decide)) with ⟨hzero, -⟩ | hshown
  · exact absurd hzero (by decide)
  · exact hshown

/-- A well-formed reference whose solve ends with the key 0, which does not decrypt it. -/
theorem recoverKey_zero_of_solve :
    (longReference 0#32).WellFormed ∧ longNotice.recoverKey (longReference 0#32) = .ok 0#32 ∧
      ¬ clearOpening <+: (longReference 0#32).payload ∧
      ((start 0#32).apply (longReference 0#32).payload).1 ≠ longNotice.plaintext := by
  decide +kernel

end Marker

end TimingFeed
