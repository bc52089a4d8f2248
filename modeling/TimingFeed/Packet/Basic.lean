import TimingFeed.Instant
import TimingFeed.Packet.Error

/-!
# Packets

A packet is a header, the inline data read from it, the receipt time and the
payload as it was last seen (off the wire, or decrypted).

* `Packet.ofFrame` reads one complete frame, `Packet.toBytes` writes it again;
  `ofFrame_toBytes` and `toBytes_of_ofFrame` make them inverse on well-formed
  packets.
* `Packet.WellFormed` says that length and inline data are those of the header.
* `Packet.isEncrypted` and `Packet.restartsCipher` say how a category takes part
  in the session cipher.
-/

namespace TimingFeed

/-- One packet of the feed. -/
structure Packet where
  header : Header
  data : UInt8
  time : Instant
  payload : List UInt8
  deriving DecidableEq, Repr

namespace Packet

/-- The packet with this header and payload, its inline data taken from the header. -/
def assemble (header : Header) (payload : List UInt8) (time : Instant) : Packet :=
  ⟨header, header.data, time, payload⟩

/-- Read a complete frame: a header and exactly the payload that it announces. -/
def ofFrame (frame : List UInt8) (time : Instant) : Except FrameError Packet :=
  match frame with
  | first :: second :: payload =>
    let header : Header := ⟨first, second⟩
    if payload.length = header.payloadLength then .ok (assemble header payload time)
    else .error (.lengthMismatch header.frameLength frame.length)
  | short => .error (.lengthMismatch headerLength short.length)

/-- Header and payload as they stand on the wire. -/
def toBytes (p : Packet) : List UInt8 := p.header.toBytes ++ p.payload

/-- Payload length and inline data are those that the header announces. -/
def WellFormed (p : Packet) : Prop :=
  p.payload.length = p.header.payloadLength ∧ p.data = p.header.data

instance (p : Packet) : Decidable p.WellFormed := inferInstanceAs (Decidable (_ ∧ _))

/-- The grid position, 0 for a session-wide packet. -/
def car (p : Packet) : Nat := p.header.car

/-- The category code. -/
def code (p : Packet) : Nat := p.header.code

/-- The session-wide kind, if the packet has one. -/
def systemKind? (p : Packet) : Option SystemKind :=
  if p.header.isSystem then SystemKind.ofCode? p.code else none

/-- The car kind, if the packet has one. -/
def carKind? (p : Packet) : Option CarKind :=
  if p.header.isSystem then none else CarKind.ofCode? p.code

/-- Whether the payload of this category passes through the session cipher: of the
session-wide ones six do, of the car packets all but position updates. -/
def isEncrypted (p : Packet) : Bool :=
  if p.header.isSystem then
    match p.systemKind? with
    | some .timestamp | some .weather | some .trackStatus
    | some .commentary | some .notice | some .speed => true
    | _ => false
  else p.carKind? != some .positionUpdate

/-- Whether this packet restarts the session cipher from its seed. -/
def restartsCipher (p : Packet) : Bool :=
  match p.systemKind? with
  | some .eventId | some .keyFrame => true
  | _ => false

/-- The same packet with another payload. -/
def withPayload (p : Packet) (payload : List UInt8) : Packet := { p with payload }

@[simp] theorem header_assemble (h : Header) (payload : List UInt8) (t : Instant) :
    (assemble h payload t).header = h := rfl

@[simp] theorem payload_assemble (h : Header) (payload : List UInt8) (t : Instant) :
    (assemble h payload t).payload = payload := rfl

@[simp] theorem time_assemble (h : Header) (payload : List UInt8) (t : Instant) :
    (assemble h payload t).time = t := rfl

@[simp] theorem toBytes_assemble (h : Header) (payload : List UInt8) (t : Instant) :
    (assemble h payload t).toBytes = h.toBytes ++ payload := rfl

@[simp] theorem length_toBytes (p : Packet) :
    p.toBytes.length = headerLength + p.payload.length := by
  simp [toBytes]

/-- A well-formed packet is read back from its bytes. -/
theorem ofFrame_toBytes {p : Packet} (h : p.WellFormed) : ofFrame p.toBytes p.time = .ok p := by
  obtain ⟨hl, hd⟩ := h
  cases p with
  | mk header data time payload =>
    cases header with
    | mk first second =>
      simp only at hl hd
      simp [toBytes, Header.toBytes, ofFrame, hl, assemble, ← hd]

/-- What is read from a frame is well-formed and is written as that frame. -/
theorem toBytes_of_ofFrame {frame : List UInt8} {t : Instant} {p : Packet}
    (h : ofFrame frame t = .ok p) : p.toBytes = frame ∧ p.WellFormed ∧ p.time = t := by
  unfold ofFrame at h
  split at h
  · next first second payload =>
    simp only at h
    split at h
    · next hl => cases h; exact ⟨rfl, ⟨hl, rfl⟩, rfl⟩
    · cases h
  · cases h

end Packet

end TimingFeed
