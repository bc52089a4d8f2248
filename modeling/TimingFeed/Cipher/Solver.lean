import TimingFeed.Cipher.Error
import TimingFeed.Cipher.Keystream

/-!
# Solving for the key

Known keystream bytes determine the key one bit at a time. The first byte comes
straight from the seed and fixes bits 0 to 7; each later byte depends on exactly
one new bit, which lands in its top bit, while its other bits are already
determined and must agree.

Fixing a bit changes the register at every step that mixed the key in. The solver
remembers those steps in a second register, its taps, so the correction is one
shift and one addition.

* `Solver.absorb` takes the next keystream byte, known in full or in its top bit;
* `Solver.absorbAll` takes several.
-/

namespace TimingFeed

/-- How much of a keystream byte is known. -/
inductive Known
  /-- All eight bits. -/
  | whole
  /-- The top bit only. -/
  | topBit
  deriving DecidableEq, Repr

/-- The number of bits in a key. -/
def keyBits : Nat := 32

/-- A partly solved key. -/
structure Solver where
  /-- The bits fixed so far; the others are zero. -/
  key : Word := 0#32
  /-- How many bits are fixed. -/
  resolved : Nat := 0
  /-- The register under `key`. -/
  salt : Word := Keystream.seed
  /-- Which steps mixed the key in, the latest in bit 31. -/
  taps : Word := 0#32
  /-- How many bytes were absorbed. -/
  offset : Nat := 0
  deriving DecidableEq, Repr

namespace Solver

/-- Whether all bits are fixed. -/
def isComplete (s : Solver) : Bool := s.resolved = keyBits

/-- The taps after a step from the register `salt`. -/
def nextTaps (salt taps : Word) : Word :=
  taps >>> 1 ||| if salt.getLsbD 0 then 0x80000000#32 else 0#32

/-- The bits of the difference to a keystream byte that a check looks at. -/
def checked : Known → Word → Word
  | .whole, diff => diff &&& 0xff#32
  | .topBit, diff => diff &&& 0x80#32

/-- Take the next keystream byte. The first one must be known in full. -/
def absorb (s : Solver) (byte : UInt8) (known : Known) : Except RecoveryError Solver :=
  let taps := nextTaps s.salt s.taps
  let offset := s.offset + 1
  let seen := byte.toBitVec.setWidth 32
  if s.resolved = 0 then
    let key := seen ^^^ (s.salt >>> 1 &&& 0xff#32)
    .ok { key, resolved := 8, salt := s.salt >>> 1 ^^^ key, taps, offset }
  else
    let salt := Keystream.step s.key s.salt
    let diff := seen ^^^ (salt &&& 0xff#32)
    if s.resolved < keyBits then
      if known = .whole ∧ diff &&& 0x7f#32 ≠ 0#32 then .error (.inconsistent s.offset)
      else if diff.getLsbD 7 then
        .ok { key := s.key ^^^ 1#32 <<< s.resolved
              resolved := s.resolved + 1
              salt := salt ^^^ taps >>> (31 - s.resolved)
              taps, offset }
      else .ok { s with resolved := s.resolved + 1, salt, taps, offset }
    else if checked known diff = 0#32 then .ok { s with salt, taps, offset }
    else .error (.inconsistent s.offset)

/-- Take several keystream bytes, up to the first that no key gives. -/
def absorbAll (s : Solver) : List (UInt8 × Known) → Except RecoveryError Solver
  | [] => .ok s
  | (byte, known) :: rest => (s.absorb byte known).bind fun t => t.absorbAll rest

/-- Take bytes known in their top bit until all key bits are fixed. -/
def extend (s : Solver) : List UInt8 → Except RecoveryError Solver
  | [] => .ok s
  | byte :: rest =>
    if s.isComplete then .ok s
    else (s.absorb byte .topBit).bind fun t => t.extend rest

end Solver

end TimingFeed
