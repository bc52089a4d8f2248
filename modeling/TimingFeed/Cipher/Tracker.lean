import TimingFeed.Cipher.Marker

/-!
# Tracking the key of a connection

A tracker watches the packets of one connection, still encrypted, and looks for
the key: it anchors a solve on the first non-empty encrypted packet, which must
be the marker, and extends the solve with the packets that follow.

* `Tracker.observe` takes the next packet, `Tracker.observeEach` several, and
  `Tracker.reset` forgets everything;
* `Tracker.status` is what can be seen of the state.

Later packets are taken for seven-bit text, so each of their bytes fixes one key
bit. Commentary, notices and timestamps may hold other bytes and end the attempt.
A packet that restarts the cipher also restarts an unfinished or failed attempt.
-/

namespace TimingFeed

/-- How far the search for a key has come. -/
inductive KeySearch
  /-- The marker was not seen yet. -/
  | start
  /-- The marker was accepted and some bits are fixed. -/
  | solving (solver : Solver)
  /-- The key is known. -/
  | recovered (key : Word)
  /-- The feed is not encrypted. -/
  | inClear
  /-- The attempt has failed. -/
  | failed (cause : RecoveryError)
  deriving DecidableEq, Repr

/-- What can be seen of a search. -/
inductive KeyStatus
  | start
  | inProgress (resolvedBits : Nat)
  | recovered (key : Word)
  | inClear
  | failed (cause : RecoveryError)
  deriving DecidableEq, Repr

namespace KeyStatus

/-- The usable key, if any; 0 for a feed in clear. -/
def key? : KeyStatus → Option Word
  | recovered key => some key
  | inClear => some 0#32
  | _ => none

/-- Whether the search has come to an end. -/
def isFinished : KeyStatus → Bool
  | recovered _ | inClear | failed _ => true
  | start | inProgress _ => false

end KeyStatus

namespace KeySearch

/-- What can be seen of a search. -/
def status : KeySearch → KeyStatus
  | start => .start
  | solving solver => .inProgress solver.resolved
  | recovered key => .recovered key
  | inClear => .inClear
  | failed cause => .failed cause

/-- A solve is finished when all bits are fixed. -/
def settle (solver : Solver) : KeySearch :=
  if solver.isComplete then recovered solver.key else solving solver

/-- Anchor the search on a reference packet. -/
def anchor (m : Marker) (p : Packet) : KeySearch :=
  match m.anchor p with
  | .ok .inClear => inClear
  | .ok (.solving solver) => settle solver
  | .error e => failed e

/-- Whether a packet may carry plaintext bytes with the top bit set. -/
def isUnreliable (p : Packet) : Bool :=
  match p.systemKind? with
  | some .commentary | some .notice | some .timestamp => true
  | _ => false

/-- Carry a solve over the next encrypted packet. -/
def extend (solver : Solver) (p : Packet) : KeySearch :=
  if isUnreliable p then failed (.unreliablePlaintext p.code)
  else match solver.extend p.payload with
    | .ok solver => settle solver
    | .error e => failed e

/-- A restart of the cipher ends an unfinished or failed attempt; a known key stays. -/
def restart : KeySearch → KeySearch
  | solving _ | failed _ => start
  | known => known

/-- Take a non-empty encrypted packet. -/
def advance (m : Marker) (p : Packet) : KeySearch → KeySearch
  | start => anchor m p
  | solving solver => extend solver p
  | finished => finished

/-- Take the next packet of the connection. -/
def observe (m : Marker) (s : KeySearch) (p : Packet) : KeySearch :=
  if p.restartsCipher then s.restart
  else if p.isEncrypted ∧ p.payload ≠ [] then s.advance m p
  else s

end KeySearch

/-- The search for the key of one connection. -/
structure Tracker where
  marker : Marker := .pleaseWait
  search : KeySearch := .start
  deriving DecidableEq, Repr

namespace Tracker

/-- What can be seen of the search. -/
def status (t : Tracker) : KeyStatus := t.search.status

/-- The usable key, if any. -/
def key? (t : Tracker) : Option Word := t.status.key?

/-- Take the next packet of the connection, as it was framed. -/
def observe (t : Tracker) (p : Packet) : Tracker :=
  { t with search := t.search.observe t.marker p }

/-- Take packets in order. Gives the status after each of them. -/
def observeEach : Tracker → List Packet → List KeyStatus × Tracker
  | t, [] => ([], t)
  | t, p :: rest =>
    let u := t.observe p
    let (later, v) := observeEach u rest
    (u.status :: later, v)

/-- Forget all progress, also a known key. -/
def reset (t : Tracker) : Tracker := { t with search := .start }

end Tracker

end TimingFeed
