import TimingFeed.Packet.Basic

/-!
# The keystream

Payloads are hidden with a 32-bit register that starts from a fixed seed. Each
step shifts it right by one and mixes in the key when the bit shifted out is one;
its low byte is added to the next payload byte.

* `Keystream.next` is one step, `Keystream.output key n` the first `n` bytes from
  the seed;
* `Keystream.apply` hides or shows a payload; key 0 stands for a feed in clear;
* `Keystream.replay` runs one keystream over the packets of a connection.
-/

namespace TimingFeed

/-- The contents of the register, and a key. -/
abbrev Word := BitVec 32

/-- The low byte of a word. -/
def lowByte (w : Word) : UInt8 := ⟨w.setWidth 8⟩

/-- A register and the key that it mixes in. -/
structure Keystream where
  key : Word
  salt : Word
  deriving DecidableEq, Repr

namespace Keystream

/-- Where every register starts. -/
def seed : Word := 0x55555555#32

/-- A keystream at its start. -/
def start (key : Word) : Keystream := ⟨key, seed⟩

/-- Back to the start. -/
def restart (k : Keystream) : Keystream := start k.key

/-- One step of the register. -/
def step (key salt : Word) : Word :=
  salt >>> 1 ^^^ if salt.getLsbD 0 then key else 0#32

/-- The next byte of the keystream. -/
def next (k : Keystream) : UInt8 × Keystream :=
  let salt := step k.key k.salt
  (lowByte salt, { k with salt })

/-- The next `n` bytes of the keystream. -/
def nextBytes : Nat → Keystream → List UInt8 × Keystream
  | 0, k => ([], k)
  | n + 1, k =>
    let (b, l) := k.next
    let (bs, m) := nextBytes n l
    (b :: bs, m)

/-- The first `n` bytes that a key gives. -/
def output (key : Word) (n : Nat) : List UInt8 := (nextBytes n (start key)).1

/-- Add the keystream to a payload, byte by byte. -/
def mask : Keystream → List UInt8 → List UInt8 × Keystream
  | k, [] => ([], k)
  | k, b :: rest =>
    let (s, l) := k.next
    let (bs, m) := mask l rest
    ((b ^^^ s) :: bs, m)

/-- Hide or show a payload. With key 0 nothing happens. -/
def apply (k : Keystream) (payload : List UInt8) : List UInt8 × Keystream :=
  if k.key = 0#32 then (payload, k) else k.mask payload

/-- Take one packet of a connection: it restarts the keystream, or passes through
it, or does neither. -/
def applyPacket (k : Keystream) (p : Packet) : Packet × Keystream :=
  if p.restartsCipher then (p, k.restart)
  else if p.isEncrypted then
    let (payload, l) := k.apply p.payload
    (p.withPayload payload, l)
  else (p, k)

/-- Take the packets of a connection in order. -/
def replay : Keystream → List Packet → List Packet
  | _, [] => []
  | k, p :: rest =>
    let (q, l) := k.applyPacket p
    q :: replay l rest

/-- Take the payloads of packets in order, whatever their categories. -/
def maskPayloads : Keystream → List Packet → List Packet
  | _, [] => []
  | k, p :: rest =>
    let (payload, l) := k.apply p.payload
    p.withPayload payload :: maskPayloads l rest

@[simp] theorem key_start (key : Word) : (start key).key = key := rfl

@[simp] theorem salt_start (key : Word) : (start key).salt = seed := rfl

@[simp] theorem replay_nil (k : Keystream) : k.replay [] = [] := rfl

@[simp] theorem replay_cons (k : Keystream) (p : Packet) (rest : List Packet) :
    k.replay (p :: rest) = (k.applyPacket p).1 :: (k.applyPacket p).2.replay rest := rfl

@[simp] theorem length_replay (k : Keystream) (ps : List Packet) :
    (k.replay ps).length = ps.length := by
  induction ps generalizing k with
  | nil => rfl
  | cons p rest ih => simp [ih]

@[simp] theorem length_mask (k : Keystream) (payload : List UInt8) :
    (k.mask payload).1.length = payload.length := by
  induction payload generalizing k with
  | nil => rfl
  | cons b rest ih => simp [mask, ih]

@[simp] theorem length_apply (k : Keystream) (payload : List UInt8) :
    (k.apply payload).1.length = payload.length := by
  unfold apply
  split <;> simp

end Keystream

end TimingFeed
