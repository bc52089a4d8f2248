/-!
# Little-endian numbers

A number below `256 ^ w` as `w` bytes, the least significant first.

* `LittleEndian.encode w n` writes and `LittleEndian.decode` reads;
* `decode_encode` and `encode_decode` make them inverse.
-/

namespace TimingFeed.LittleEndian

/-- The lowest `w` bytes of a number. -/
def encode : Nat → Nat → List UInt8
  | 0, _ => []
  | w + 1, n => UInt8.ofNat n :: encode w (n / 256)

/-- The number that bytes stand for. -/
def decode : List UInt8 → Nat
  | [] => 0
  | b :: rest => b.toNat + 256 * decode rest

@[simp] theorem length_encode (w n : Nat) : (encode w n).length = w := by
  induction w generalizing n with
  | zero => rfl
  | succ w ih => simp [encode, ih]

/-- A number that fits is read back. -/
theorem decode_encode {w n : Nat} (h : n < Nat.pow 256 w) : decode (encode w n) = n := by
  induction w generalizing n with
  | zero => simp only [Nat.pow] at h; simp only [encode, decode]; omega
  | succ w ih =>
    have hlt : n / 256 < Nat.pow 256 w := by
      rw [Nat.div_lt_iff_lt_mul (by decide)]
      exact h
    simp only [encode, decode, ih hlt, UInt8.toNat_ofNat']
    omega

theorem decode_lt (bytes : List UInt8) : decode bytes < Nat.pow 256 bytes.length := by
  induction bytes with
  | nil => simp [decode]
  | cons b rest ih =>
    have := b.toNat_lt
    show b.toNat + 256 * decode rest < Nat.pow 256 rest.length * 256
    omega

/-- Bytes are written back from the number that they stand for. -/
theorem encode_decode (bytes : List UInt8) : encode bytes.length (decode bytes) = bytes := by
  induction bytes with
  | nil => rfl
  | cons b rest ih =>
    have hb := b.toNat_lt
    have hq : (b.toNat + 256 * decode rest) / 256 = decode rest := by omega
    have hr : UInt8.ofNat (b.toNat + 256 * decode rest) = b := by
      apply UInt8.toNat_inj.1
      rw [UInt8.toNat_ofNat']
      omega
    simp only [List.length_cons, decode, encode, hq, hr, ih]

end TimingFeed.LittleEndian
