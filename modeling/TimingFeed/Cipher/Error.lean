/-!
# Key recovery errors

Why a key cannot be recovered from a reference packet or from the packets that
follow it. Each cause has one wording, `RecoveryError.message`.
-/

namespace TimingFeed

/-- Why there is no key. -/
inductive RecoveryError
  /-- The reference is not of the marker's category. -/
  | unexpectedCategory (car code : Nat)
  /-- The reference is not as long as the marker's plaintext. -/
  | unexpectedLength (expected actual : Nat)
  /-- No key gives the byte at this position. -/
  | inconsistent (offset : Nat)
  /-- Only so many bits of the key are fixed. -/
  | underdetermined (resolvedBits : Nat)
  /-- The category may carry plaintext bytes with the top bit set. -/
  | unreliablePlaintext (code : Nat)
  deriving DecidableEq, Repr

/-- The wording of a key recovery error. -/
def RecoveryError.message : RecoveryError → String
  | unexpectedCategory car code =>
    s!"Reference packet has category {code} (car {car}), not the validation marker"
  | unexpectedLength expected actual =>
    s!"Reference packet carries {actual} payload bytes, expected {expected}"
  | inconsistent offset =>
    s!"Derived key disagrees with the known plaintext at payload byte {offset}"
  | underdetermined resolvedBits =>
    s!"Reference data resolves only {resolvedBits} of 32 key bits"
  | unreliablePlaintext code =>
    s!"Packet category {code} may carry 8-bit plaintext and cannot extend the key"

end TimingFeed
