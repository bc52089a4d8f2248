import TimingFeed.Proofs.Cipher.Solving

/-!
# Positions in a keystream

Which byte of the keystream falls on which byte of a connection.

* `Keystream.after key n` is the keystream after `n` bytes, and `mask_after` says what it adds
  to a payload;
* `hiddenBytes` are the bytes of some packets that the cipher covers: they alone move the
  keystream, and quiet packets leave it at its start (`applyPacket_after`, `replay_quiet`);
* `replay_replay`: what a replay hides, the same replay shows.
-/

namespace TimingFeed

namespace Packet

/-- The payload bytes that pass through the session cipher. -/
def hidden (p : Packet) : List UInt8 := if p.isEncrypted then p.payload else []

theorem hidden_eq_nil_iff {p : Packet} :
    p.hidden = [] ↔ (p.isEncrypted = true → p.payload = []) := by
  rw [hidden]
  split <;> simp_all

/-- A packet whose payload passes through the cipher does not restart it. -/
theorem restartsCipher_of_isEncrypted (p : Packet) (h : p.isEncrypted = true) :
    p.restartsCipher = false := by
  by_cases hs : p.header.isSystem
  · rw [isEncrypted, if_pos hs] at h
    unfold restartsCipher
    split at h <;> simp_all
  · rw [restartsCipher, systemKind?, if_neg hs]

/-- A packet that neither moves the keystream nor shows any of it. -/
def IsQuiet (p : Packet) : Prop := p.restartsCipher = true ∨ p.hidden = []

section WithPayload

variable (p : Packet) (payload : List UInt8)

@[simp] theorem payload_withPayload : (p.withPayload payload).payload = payload := rfl

@[simp] theorem withPayload_withPayload (other : List UInt8) :
    (p.withPayload payload).withPayload other = p.withPayload other := rfl

@[simp] theorem withPayload_self : p.withPayload p.payload = p := rfl

@[simp] theorem systemKind?_withPayload :
    (p.withPayload payload).systemKind? = p.systemKind? := rfl

@[simp] theorem isEncrypted_withPayload :
    (p.withPayload payload).isEncrypted = p.isEncrypted := rfl

@[simp] theorem restartsCipher_withPayload :
    (p.withPayload payload).restartsCipher = p.restartsCipher := rfl

end WithPayload

end Packet

/-- The bytes of some packets that pass through the session cipher. -/
def hiddenBytes (packets : List Packet) : List UInt8 := packets.flatMap Packet.hidden

@[simp] theorem hiddenBytes_nil : hiddenBytes [] = [] := rfl

@[simp] theorem hiddenBytes_cons (p : Packet) (packets : List Packet) :
    hiddenBytes (p :: packets) = p.hidden ++ hiddenBytes packets := rfl

@[simp] theorem hiddenBytes_append (packets more : List Packet) :
    hiddenBytes (packets ++ more) = hiddenBytes packets ++ hiddenBytes more := by
  simp [hiddenBytes]

namespace Keystream

variable (k : Keystream) (key : Word)

/-! ### What is hidden is shown again -/

theorem mask_mask (payload : List UInt8) :
    k.mask (k.mask payload).1 = (payload, (k.mask payload).2) := by
  induction payload generalizing k with
  | nil => rfl
  | cons b rest ih =>
    have hb : (b ^^^ k.next.1) ^^^ k.next.1 = b := by
      rw [UInt8.xor_assoc, UInt8.xor_self, UInt8.xor_zero]
    simp only [mask, ih, hb]

theorem apply_apply (payload : List UInt8) :
    k.apply (k.apply payload).1 = (payload, (k.apply payload).2) := by
  unfold apply
  split
  · rfl
  · exact mask_mask k payload

theorem applyPacket_applyPacket (p : Packet) :
    k.applyPacket (k.applyPacket p).1 = (p, (k.applyPacket p).2) := by
  by_cases hr : p.restartsCipher
  · simp [applyPacket, hr]
  · by_cases he : p.isEncrypted
    · simp [applyPacket, hr, he, apply_apply]
    · simp [applyPacket, hr, he]

/-- **What a replay hides, the same replay shows.** -/
theorem replay_replay (packets : List Packet) : k.replay (k.replay packets) = packets := by
  induction packets generalizing k with
  | nil => rfl
  | cons p rest ih => simp [applyPacket_applyPacket, ih]

/-- Hiding keeps a packet well-formed. -/
theorem wellFormed_applyPacket {p : Packet} (h : p.WellFormed) :
    (k.applyPacket p).1.WellFormed := by
  unfold applyPacket
  split
  · exact h
  · split
    · exact ⟨(length_apply k p.payload).trans h.1, h.2⟩
    · exact h

theorem wellFormed_replay {packets : List Packet} (h : ∀ p ∈ packets, p.WellFormed) :
    ∀ q ∈ k.replay packets, q.WellFormed := by
  induction packets generalizing k with
  | nil => exact h
  | cons p rest ih =>
    rw [List.forall_mem_cons] at h
    exact List.forall_mem_cons.2 ⟨wellFormed_applyPacket k h.1, ih _ h.2⟩

/-! ### Where a keystream stands -/

/-- The keystream after the packets of a connection. -/
def advance : Keystream → List Packet → Keystream
  | k, [] => k
  | k, p :: rest => advance (k.applyPacket p).2 rest

@[simp] theorem advance_nil : k.advance [] = k := rfl

@[simp] theorem advance_cons (p : Packet) (rest : List Packet) :
    k.advance (p :: rest) = (k.applyPacket p).2.advance rest := rfl

theorem replay_append (packets more : List Packet) :
    k.replay (packets ++ more) = k.replay packets ++ (k.advance packets).replay more := by
  induction packets generalizing k with
  | nil => rfl
  | cons p rest ih => simp [ih]

/-- The first packets of a replay are the replay of the first packets. -/
theorem take_replay (packets : List Packet) (n : Nat) :
    (k.replay packets).take n = k.replay (packets.take n) := by
  induction packets generalizing k n with
  | nil => simp
  | cons p rest ih =>
    cases n with
    | zero => rfl
    | succ n => simp [ih]

/-- The keystream of a key after so many bytes. -/
def after (n : Nat) : Keystream := ⟨key, register key n⟩

theorem after_zero : after key 0 = start key := rfl

/-- The bytes from a position on, added to a payload. -/
theorem mask_after (n : Nat) (payload : List UInt8) :
    (after key n).mask payload =
      (payload.mapIdx fun i b => b ^^^ byteAt key (n + i), after key (n + payload.length)) := by
  induction payload generalizing n with
  | nil => rfl
  | cons b rest ih =>
    have hnext : (after key n).next = (byteAt key n, after key (n + 1)) := rfl
    simp only [mask, hnext, ih (n + 1), List.mapIdx_cons, List.length_cons, Nat.add_zero,
      Nat.add_assoc, Nat.add_comm 1]

variable {key}

/-- A packet that does not restart the cipher moves the keystream by its hidden bytes. -/
theorem applyPacket_after (hkey : key ≠ 0#32) {p : Packet} (hp : p.restartsCipher = false)
    (n : Nat) :
    (after key n).applyPacket p =
      (if p.isEncrypted then
          p.withPayload (p.payload.mapIdx fun i b => b ^^^ byteAt key (n + i))
        else p,
        after key (n + p.hidden.length)) := by
  by_cases he : p.isEncrypted
  · have happly : (after key n).apply p.payload = (after key n).mask p.payload := if_neg hkey
    simp [applyPacket, hp, he, happly, mask_after, Packet.hidden]
  · simp [applyPacket, hp, he, Packet.hidden]

/-- Quiet packets leave a keystream at its start and pass unchanged. -/
theorem applyPacket_quiet {p : Packet} (hp : p.IsQuiet) :
    (start key).applyPacket p = (p, start key) := by
  by_cases hr : p.restartsCipher
  · rw [applyPacket, if_pos hr]
    rfl
  · have hempty := Packet.hidden_eq_nil_iff.1 (hp.resolve_left hr)
    rw [applyPacket, if_neg hr]
    split
    · next he =>
      have hpayload := hempty he
      have happly : (start key).apply p.payload = (p.payload, start key) := by
        rw [hpayload, apply]
        split <;> rfl
      rw [happly]
      rfl
    · rfl

theorem replay_quiet {packets : List Packet} (h : ∀ p ∈ packets, p.IsQuiet) :
    (start key).replay packets = packets ∧ (start key).advance packets = start key := by
  induction packets with
  | nil => exact ⟨rfl, rfl⟩
  | cons p rest ih =>
    rw [List.forall_mem_cons] at h
    rw [replay_cons, advance_cons, applyPacket_quiet h.1]
    exact ⟨by rw [(ih h.2).1], (ih h.2).2⟩

end Keystream

end TimingFeed
