import TimingFeed.Cipher.Solver

/-!
# Validation markers

Every session begins with a packet whose plaintext is known. Its encrypted
payload gives the first keystream bytes, from which the key can be solved.

* `Marker.anchor` runs the solve over a reference packet;
* `Marker.recoverKey` asks for the whole key from that one packet, which needs 25
  bytes (`Marker.resolvableBits`).

A reference that starts with `img:` and gives no solution was sent in clear: the
feed is not encrypted.
-/

namespace TimingFeed

/-- A category of packets and the plaintext that they carry. -/
structure Marker where
  kind : SystemKind
  plaintext : List UInt8
  deriving DecidableEq, Repr

/-- What a reference packet tells. -/
inductive Anchor
  /-- The reference was sent in clear. -/
  | inClear
  /-- The reference fixes some key bits. -/
  | solving (solver : Solver)
  deriving DecidableEq, Repr

namespace Marker

/-- The bytes of a text. -/
def bytesOf (s : String) : List UInt8 := s.toUTF8.toList

/-- The text of the notice that opens a session. -/
def pleaseWaitText : List UInt8 := bytesOf "Please Wait ..."

/-- How a marker sent in clear begins. -/
def clearOpening : List UInt8 := bytesOf "img:"

/-- The notice that opens every session. -/
def pleaseWait : Marker := ⟨.notice, pleaseWaitText⟩

instance : Inhabited Marker := ⟨pleaseWait⟩

/-- How many key bits a reference of this marker fixes. The length is counted in a
32-bit word. -/
def resolvableBits (m : Marker) : Nat :=
  if m.plaintext = [] then 0 else min (UInt32.ofNat m.plaintext.length + 7).toNat keyBits

/-- The keystream bytes under a reference payload, all known in full. -/
def keystreamUnder (m : Marker) (payload : List UInt8) : List (UInt8 × Known) :=
  (List.zipWith (· ^^^ ·) payload m.plaintext).map fun b => (b, .whole)

/-- Solve as far as a reference packet allows. -/
def anchor (m : Marker) (reference : Packet) : Except RecoveryError Anchor :=
  if reference.systemKind? ≠ some m.kind then
    .error (.unexpectedCategory reference.car reference.code)
  else
    let solution :=
      if reference.payload.length = m.plaintext.length then
        Solver.absorbAll {} (m.keystreamUnder reference.payload)
      else .error (.unexpectedLength m.plaintext.length reference.payload.length)
    match solution with
    | .ok solver => .ok (.solving solver)
    | .error e => if clearOpening.isPrefixOf reference.payload then .ok .inClear else .error e

/-- The whole key from one reference packet; 0 when it was sent in clear. -/
def recoverKey (m : Marker) (reference : Packet) : Except RecoveryError Word :=
  match m.anchor reference with
  | .error e => .error e
  | .ok .inClear => .ok 0#32
  | .ok (.solving solver) =>
    if solver.isComplete then .ok solver.key else .error (.underdetermined solver.resolved)

end Marker

end TimingFeed
