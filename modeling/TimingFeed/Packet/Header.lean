import TimingFeed.Packet.Category

/-!
# Packet headers

Every packet starts with two bytes. The first holds the car in its low five bits
and three bits of the category code above them; the second holds the fourth bit
of the code at the bottom and, above it, a length or inline data.

* `Header.car`, `Header.code`, `Header.encoding` decode the category.
* `Header.payloadLength` is the number of bytes that follow; it never exceeds
  `maxPayload` (`payloadLength_le`).
-/

namespace TimingFeed

/-- The number of bytes in a header. -/
abbrev headerLength : Nat := 2

/-- The largest payload that a header can announce. -/
abbrev maxPayload : Nat := 127

/-- The two bytes that open every packet. -/
structure Header where
  first : UInt8
  second : UInt8
  deriving DecidableEq, Repr

namespace Header

/-- The grid position, 0 for a session-wide packet. -/
def car (h : Header) : Nat := h.first.toNat % 32

/-- The category code, whose fourth bit stands in the second byte. -/
def code (h : Header) : Nat := h.first.toNat / 32 + 8 * (h.second.toNat % 2)

/-- The inline data of a short header: bits 1 to 3 of the second byte. -/
def shortData (h : Header) : UInt8 := h.second % 16 / 2

/-- The upper seven bits of the second byte. -/
def upperBits (h : Header) : UInt8 := h.second / 2

/-- Whether the length nibble is all ones, which announces an empty short packet. -/
def isShortEmpty (h : Header) : Bool := h.second.toNat / 16 = 15

/-- Whether the packet is session-wide. -/
def isSystem (h : Header) : Bool := h.car = 0

/-- How this header announces its payload length. -/
def encoding (h : Header) : LengthEncoding := .ofCategory h.car h.code

/-- The number of payload bytes that this header announces. -/
def payloadLength (h : Header) : Nat :=
  match h.encoding with
  | .special => 0
  | .short => if h.isShortEmpty then 0 else h.second.toNat / 16
  | .long => h.upperBits.toNat
  | .fixed n => n - headerLength

/-- The number of bytes in the whole frame. -/
def frameLength (h : Header) : Nat := headerLength + h.payloadLength

/-- The inline data value of this header. -/
def data (h : Header) : UInt8 :=
  match h.encoding with
  | .special => h.upperBits
  | .short => h.shortData
  | .long | .fixed _ => 0

/-- The header as it stands on the wire. -/
def toBytes (h : Header) : List UInt8 := [h.first, h.second]

@[simp] theorem length_toBytes (h : Header) : h.toBytes.length = headerLength := rfl

theorem car_lt (h : Header) : h.car < 32 := Nat.mod_lt _ (by decide)

theorem code_le (h : Header) : h.code ≤ maxCode := by
  have := h.first.toNat_lt
  simp only [code, maxCode]
  omega

theorem upperBits_le (h : Header) : h.upperBits.toNat ≤ maxPayload := by
  have := h.second.toNat_lt
  simp only [upperBits, UInt8.toNat_div, UInt8.reduceToNat, maxPayload]
  omega

/-- No header announces more than `maxPayload` bytes. -/
theorem payloadLength_le (h : Header) : h.payloadLength ≤ maxPayload := by
  have := h.second.toNat_lt
  unfold payloadLength
  split
  · exact Nat.zero_le _
  · split <;> simp only [maxPayload] <;> omega
  · exact h.upperBits_le
  · next n hn => rw [LengthEncoding.eq_of_ofCategory_eq_fixed hn]; decide

end Header

end TimingFeed
