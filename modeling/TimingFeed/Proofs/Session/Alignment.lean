import TimingFeed.Proofs.Cipher.Stream
import TimingFeed.Proofs.Session.Calls
import Mathlib.Data.List.DropRight

/-!
# What a session shows of its cache

A session decrypts its cache with a keystream that starts at the first packet kept. Main statement:
`decryptedCache_eq_iff`. This is what the connection has at these places from the first packet that
restarts the cipher; the packets before it are right exactly if the keystream at the place where the
cache begins is the same as at its start, for as many bytes as they hide. So it is as long as the
cache was not handed over, or no byte was hidden since the last restart.

* `afterRestart` and `beforeRestart` are the packets since the last restart of the cipher, and those
  up to the first one;
* `advance_start`: where the keystream of a connection stands;
* `replay_after_eq_iff`, `drop_replay`: when two keystreams of one key show the same packets.
-/

namespace TimingFeed

/-- The packets since the cipher was last restarted, or all. -/
def afterRestart (packets : List Packet) : List Packet :=
  packets.rtakeWhile fun p => !p.restartsCipher

/-- The packets before the cipher is first restarted, or all. -/
def beforeRestart (packets : List Packet) : List Packet :=
  packets.takeWhile fun p => !p.restartsCipher

section Restart

variable {p : Packet} (packets : List Packet)

theorem afterRestart_restart (hp : p.restartsCipher = true) :
    afterRestart (packets ++ [p]) = [] :=
  List.rtakeWhile_concat_neg _ _ _ (by simp [hp])

theorem afterRestart_concat (hp : p.restartsCipher = false) :
    afterRestart (packets ++ [p]) = afterRestart packets ++ [p] :=
  List.rtakeWhile_concat_pos _ _ _ (by simp [hp])

theorem beforeRestart_restart (hp : p.restartsCipher = true) :
    beforeRestart (p :: packets) = [] := by
  simp [beforeRestart, hp]

theorem beforeRestart_cons (hp : p.restartsCipher = false) :
    beforeRestart (p :: packets) = p :: beforeRestart packets := by
  simp [beforeRestart, hp]

end Restart

/-- What holds below a sum holds below the first summand and, shifted by it, below the second. -/
theorem forall_lt_add_iff {a b : Nat} {q : Nat → Prop} :
    (∀ i < a + b, q i) ↔ (∀ i < a, q i) ∧ ∀ i < b, q (a + i) := by
  constructor
  · intro h
    exact ⟨fun i hi => h i (Nat.lt_add_right b hi), fun i hi => h _ (Nat.add_lt_add_left hi a)⟩
  · rintro ⟨hlow, hhigh⟩ i hi
    rcases Nat.lt_or_ge i a with hlt | hge
    · exact hlow i hlt
    · obtain ⟨j, rfl⟩ := Nat.exists_eq_add_of_le hge
      exact hhigh j (Nat.lt_of_add_lt_add_left hi)

namespace Keystream

/-! ### Where the keystream of a connection stands -/

theorem advance_append (k : Keystream) (packets more : List Packet) :
    k.advance (packets ++ more) = (k.advance packets).advance more := by
  induction packets generalizing k with
  | nil => rfl
  | cons p rest ih => exact ih _

theorem key_mask (k : Keystream) (payload : List UInt8) : (k.mask payload).2.key = k.key := by
  induction payload generalizing k with
  | nil => rfl
  | cons b rest ih => exact ih _

theorem key_apply (k : Keystream) (payload : List UInt8) : (k.apply payload).2.key = k.key := by
  unfold apply
  split
  · rfl
  · exact key_mask k payload

theorem key_applyPacket (k : Keystream) (p : Packet) : (k.applyPacket p).2.key = k.key := by
  unfold applyPacket
  split
  · rfl
  · split
    · exact key_apply k p.payload
    · rfl

theorem key_advance (k : Keystream) (packets : List Packet) : (k.advance packets).key = k.key := by
  induction packets generalizing k with
  | nil => rfl
  | cons p rest ih => exact (ih _).trans (key_applyPacket k p)

variable {key : Word}

/-- **The keystream of a connection has moved by the bytes hidden since the last restart.** -/
theorem advance_start (hkey : key ≠ 0#32) (packets : List Packet) :
    (start key).advance packets = after key (hiddenBytes (afterRestart packets)).length := by
  induction packets using List.reverseRecOn with
  | nil => rfl
  | append_singleton packets p ih =>
    rw [advance_append, ih, advance_cons, advance_nil]
    cases hp : p.restartsCipher with
    | true =>
      rw [afterRestart_restart packets hp, applyPacket, if_pos hp]
      rfl
    | false =>
      rw [afterRestart_concat packets hp, applyPacket_after hkey hp, hiddenBytes_append,
        List.length_append, hiddenBytes_cons, hiddenBytes_nil, List.append_nil]

/-! ### Two keystreams of one key -/

/-- The two keystreams add the same to as many bytes as there are. -/
theorem mapIdx_xor_eq_iff (payload : List UInt8) (f g : Nat → UInt8) :
    (payload.mapIdx fun i b => b ^^^ f i) = (payload.mapIdx fun i b => b ^^^ g i) ↔
      ∀ i < payload.length, f i = g i := by
  constructor
  · intro h i hi
    have hbyte := congrArg (·[i]?) h
    simp only [List.getElem?_mapIdx, List.getElem?_eq_getElem hi, Option.map_some,
      Option.some.injEq] at hbyte
    exact (UInt8.xor_right_inj _).1 hbyte
  · intro h
    refine List.ext_getElem (by simp) fun i hi _ => ?_
    rw [List.getElem_mapIdx, List.getElem_mapIdx, h i (by simpa using hi)]

/-- One packet is shown the same from two places exactly if its hidden bytes are. -/
theorem applyPacket_after_eq_iff (hkey : key ≠ 0#32) {p : Packet} (hp : p.restartsCipher = false)
    (n m : Nat) :
    ((after key n).applyPacket p).1 = ((after key m).applyPacket p).1 ↔
      ∀ i < p.hidden.length, byteAt key (n + i) = byteAt key (m + i) := by
  have hpayload : ∀ payload other : List UInt8,
      p.withPayload payload = p.withPayload other ↔ payload = other :=
    fun payload other => ⟨congrArg Packet.payload, congrArg p.withPayload⟩
  rw [applyPacket_after hkey hp, applyPacket_after hkey hp]
  by_cases he : p.isEncrypted
  · simp only [he, if_true, Packet.hidden, hpayload, mapIdx_xor_eq_iff]
  · simp [he, Packet.hidden]

/-- **From two places the same packets are shown exactly if the keystream is the same there**, for
as many bytes as are hidden before the next restart. -/
theorem replay_after_eq_iff (hkey : key ≠ 0#32) (packets : List Packet) (n m : Nat) :
    (after key n).replay packets = (after key m).replay packets ↔
      ∀ i < (hiddenBytes (beforeRestart packets)).length,
        byteAt key (n + i) = byteAt key (m + i) := by
  induction packets generalizing n m with
  | nil => simp [beforeRestart]
  | cons p rest ih =>
    cases hp : p.restartsCipher with
    | true =>
      rw [beforeRestart_restart rest hp]
      simp [applyPacket, hp, restart, after]
    | false =>
      have hafter : ∀ l, ((after key l).applyPacket p).2 = after key (l + p.hidden.length) :=
        fun l => congrArg Prod.snd (applyPacket_after hkey hp l)
      rw [beforeRestart_cons rest hp, replay_cons, replay_cons, List.cons.injEq,
        applyPacket_after_eq_iff hkey hp, hafter, hafter, ih, hiddenBytes_cons, List.length_append,
        forall_lt_add_iff]
      simp only [Nat.add_assoc]

/-- From the first restart on the place does not matter. -/
theorem drop_replay {k l : Keystream} (h : k.key = l.key) (packets : List Packet) :
    (k.replay packets).drop (beforeRestart packets).length =
      (l.replay packets).drop (beforeRestart packets).length := by
  induction packets generalizing k l with
  | nil => rfl
  | cons p rest ih =>
    cases hp : p.restartsCipher with
    | true =>
      rw [beforeRestart_restart rest hp]
      simp [applyPacket, hp, restart, h]
    | false =>
      rw [beforeRestart_cons rest hp]
      simp only [replay_cons, List.length_cons, List.drop_succ_cons]
      exact ih (by rw [key_applyPacket, key_applyPacket, h])

/-- With key 0 every packet passes unchanged. -/
theorem replay_zero (packets : List Packet) (k : Keystream) (hk : k.key = 0#32) :
    k.replay packets = packets := by
  induction packets generalizing k with
  | nil => rfl
  | cons p rest ih =>
    have hsame : (k.applyPacket p).1 = p := by
      by_cases hr : p.restartsCipher
      · simp [applyPacket, hr]
      · by_cases he : p.isEncrypted <;> simp [applyPacket, hr, he, apply, hk]
    rw [replay_cons, hsame, ih _ ((key_applyPacket k p).trans hk)]

end Keystream

namespace Session

open Keystream

/-- What the connection has at the places of the packets that are kept. -/
theorem replay_at_kept (key : Word) (limit : Nat) (calls : List Call) :
    let earlier := (stretches calls).closed.flatten
    let kept := (stretches calls).current.take limit
    (((Keystream.start key).replay (calls.filterMap Call.packet?)).drop earlier.length).take
        kept.length =
      ((Keystream.start key).advance earlier).replay kept := by
  intro earlier kept
  have hpackets : calls.filterMap Call.packet? =
      (stretches calls).closed.flatten ++ (stretches calls).current := by
    simpa [stretches, Stretches.all] using (flatten_foldl_after {} calls).symm
  rw [hpackets, replay_append, List.drop_left' (length_replay _ _), take_replay, List.length_take,
    ← List.take_eq_take_min]

/-- **When a session decrypts its cache rightly.** A fresh session takes packets and hands its cache
over, in any order, and the key is known. Then it shows the packets that it keeps, and from the
first of them that restarts the cipher on they are those of the whole connection, decrypted from its
beginning. The ones before are so exactly if the feed is in clear or if, for all bytes that they
hide, the keystream of the key at the place where the cache begins is the one at its start. This
place is the number of bytes hidden, before the cache was last handed over, since the cipher was
restarted; it is 0 if the cache was never handed over. -/
theorem decryptedCache_eq_iff (marker : Marker) (limit : Nat) (calls : List Call) {key : Word}
    (hkey : ((start marker limit).answerAll calls).2.key? = some key) :
    let earlier := (stretches calls).closed.flatten
    let kept := (stretches calls).current.take limit
    let whole := (Keystream.start key).replay (calls.filterMap Call.packet?)
    let right := (whole.drop earlier.length).take kept.length
    ∃ shown, ((start marker limit).answerAll calls).2.decryptedCache? = some shown ∧
      shown.drop (beforeRestart kept).length = right.drop (beforeRestart kept).length ∧
      (shown = right ↔ key = 0#32 ∨ ∀ i < (hiddenBytes (beforeRestart kept)).length,
        byteAt key ((hiddenBytes (afterRestart earlier)).length + i) = byteAt key i) := by
  intro earlier kept whole right
  have hright : right = ((Keystream.start key).advance earlier).replay kept :=
    replay_at_kept key limit calls
  have hcache : ((start marker limit).answerAll calls).2.cache.toList = kept :=
    (keeps_answerAll marker limit calls).cache
  refine ⟨(Keystream.start key).replay kept, ?_, ?_, ?_⟩
  · rw [decryptedCache?, hkey, Option.map_some, hcache]
  · rw [hright]
    exact drop_replay (key_advance _ earlier).symm kept
  · rw [hright]
    by_cases hzero : key = 0#32
    · refine iff_of_true ?_ (.inl hzero)
      rw [replay_zero kept _ hzero, replay_zero kept _ ((key_advance _ earlier).trans hzero)]
    · rw [advance_start hzero, eq_comm, ← after_zero, replay_after_eq_iff hzero]
      simp only [hzero, false_or, Nat.zero_add]

/-- The value of one more car. -/
def laterValue : Packet := .assemble ⟨0x23, 0x40⟩ [0x31, 0x3A, 0x33, 0x30] .epoch

/-- A session under one key whose cache is handed over once the key is known. -/
def handedOver (later : List Packet) : List Call :=
  let sent := (Keystream.start 0xC0FFEE42#32).replay
    (openingEvent :: openingNotice :: (twoValues ++ later))
  (sent.take 5).map .handle ++ .takeCache :: (sent.drop 5).map .handle

/-- An event restarts the cipher, so the value behind it is shown. -/
theorem decryptedCache_eq_iff_restart :
    ((start .pleaseWait 8).answerAll (handedOver [openingEvent, laterValue])).2.decryptedCache? =
      some [openingEvent, laterValue] := by
  obtain ⟨shown, hshown, -, hright⟩ :=
    decryptedCache_eq_iff .pleaseWait 8 (handedOver [openingEvent, laterValue])
      (show _ = some 0xC0FFEE42#32 by decide +kernel)
  rw [hshown, hright.2 (.inr (by decide +kernel))]
  decide +kernel

/-- Without one the value is shown as something else. -/
theorem misaligned_after_takeCache :
    ¬ ∀ (marker : Marker) (limit : Nat) (calls : List Call) (key : Word) (shown : List Packet),
      let s := ((start marker limit).answerAll calls).2
      let earlier := (stretches calls).closed.flatten
      let whole := (Keystream.start key).replay (calls.filterMap Call.packet?)
      s.key? = some key → s.decryptedCache? = some shown →
        shown = (whole.drop earlier.length).take shown.length := by
  intro h
  have hshown := h .pleaseWait 8 (handedOver [laterValue]) 0xC0FFEE42#32
    [laterValue.withPayload [0x26, 0xF3, 0x95, 0x63]] (by decide +kernel) (by decide +kernel)
  revert hshown
  decide +kernel

end Session

end TimingFeed
