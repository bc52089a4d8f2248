import TimingFeed.Packet.Header

/-!
# Framing errors

What can be wrong with a frame, a category or a stream of bytes. Each cause has
one wording, `FrameError.message`.
-/

namespace TimingFeed

/-- Why bytes cannot be read as packets. -/
inductive FrameError
  /-- No length encoding is known for the category. -/
  | unknownCategory (car code : Nat)
  /-- A header announces more payload than is allowed. -/
  | lengthExceedsMaximum (car code claimed limit : Nat)
  /-- A frame does not have the length that its header announces. -/
  | lengthMismatch (expected actual : Nat)
  /-- An earlier error left the stream at an unknown position. -/
  | poisoned
  deriving DecidableEq, Repr

/-- The wording of a framing error. -/
def FrameError.message : FrameError → String
  | unknownCategory car code => s!"Unknown packet category {code} (car {car})"
  | lengthExceedsMaximum car code claimed limit =>
    s!"Packet category {code} (car {car}) claims {claimed} payload bytes, limit is {limit}"
  | lengthMismatch expected actual =>
    s!"Frame holds {actual} bytes but its header announces {expected}"
  | poisoned => "Stream framer is poisoned by an earlier framing error"

/-- The length encoding of any category; a code that no header can hold has none. -/
def LengthEncoding.lookup (car code : Nat) : Except FrameError LengthEncoding :=
  if code ≤ maxCode then .ok (.ofCategory car code) else .error (.unknownCategory car code)

@[simp] theorem LengthEncoding.lookup_header (h : Header) :
    lookup h.car h.code = .ok h.encoding := by
  simp [lookup, Header.code_le, Header.encoding]

end TimingFeed
