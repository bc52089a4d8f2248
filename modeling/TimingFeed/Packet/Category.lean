/-!
# Packet categories

A packet is either about the session as a whole (car 0) or about one car of the
starting grid. Its category is a code; some codes have a name.

* `SystemKind` names the known session-wide categories, `CarKind` the two car
  categories that are not data cells.
* `LengthEncoding.ofCategory` says how a category writes its payload length,
  for every code that fits the header's four bits.
-/

namespace TimingFeed

/-- The known categories of session-wide packets. -/
inductive SystemKind
  | eventId
  | keyFrame
  | validMarker
  | commentary
  | refreshRate
  | notice
  | timestamp
  | weather
  | speed
  | trackStatus
  | copyright
  deriving DecidableEq, Repr

namespace SystemKind

/-- The category code of a session-wide kind. -/
def code : SystemKind → Nat
  | eventId => 1
  | keyFrame => 2
  | validMarker => 3
  | commentary => 4
  | refreshRate => 5
  | notice => 6
  | timestamp => 7
  | weather => 9
  | speed => 10
  | trackStatus => 11
  | copyright => 12

/-- The session-wide kind of a code; 0, 8 and everything above 12 have none. -/
def ofCode? : Nat → Option SystemKind
  | 1 => some eventId
  | 2 => some keyFrame
  | 3 => some validMarker
  | 4 => some commentary
  | 5 => some refreshRate
  | 6 => some notice
  | 7 => some timestamp
  | 9 => some weather
  | 10 => some speed
  | 11 => some trackStatus
  | 12 => some copyright
  | _ => none

@[simp] theorem ofCode?_code (k : SystemKind) : ofCode? k.code = some k := by
  cases k <;> rfl

theorem ofCode?_eq_some_iff {n : Nat} {k : SystemKind} : ofCode? n = some k ↔ n = k.code := by
  constructor
  · intro h
    unfold ofCode? at h
    split at h <;> cases h <;> rfl
  · rintro rfl
    exact ofCode?_code k

end SystemKind

/-- The car categories that are not data cells. -/
inductive CarKind
  | positionUpdate
  | positionHistory
  deriving DecidableEq, Repr

namespace CarKind

/-- The category code of a car kind. -/
def code : CarKind → Nat
  | positionUpdate => 0
  | positionHistory => 15

/-- The car kind of a code; 1 to 14 are data cells. -/
def ofCode? : Nat → Option CarKind
  | 0 => some positionUpdate
  | 15 => some positionHistory
  | _ => none

@[simp] theorem ofCode?_code (k : CarKind) : ofCode? k.code = some k := by
  cases k <;> rfl

theorem ofCode?_eq_some_iff {n : Nat} {k : CarKind} : ofCode? n = some k ↔ n = k.code := by
  constructor
  · intro h
    unfold ofCode? at h
    split at h <;> cases h <;> rfl
  · rintro rfl
    exact ofCode?_code k

end CarKind

/-- How a category announces its payload length. -/
inductive LengthEncoding
  /-- No payload; the upper seven bits of the second byte are inline data. -/
  | special
  /-- The length is the high nibble of the second byte, three bits are inline data. -/
  | short
  /-- The length is the upper seven bits of the second byte. -/
  | long
  /-- Every frame has this many bytes, header included. -/
  | fixed (frameLength : Nat)
  deriving DecidableEq, Repr

/-- The largest code that fits a header. -/
def maxCode : Nat := 15

/-- The length encoding of a category. Car 0 marks a session-wide packet. Code 8
has no name among these and carries no payload; the other unnamed codes are long. -/
def LengthEncoding.ofCategory (car code : Nat) : LengthEncoding :=
  if car = 0 then
    match SystemKind.ofCode? code with
    | some .validMarker | some .refreshRate => .special
    | some .eventId | some .keyFrame | some .weather | some .trackStatus => .short
    | some .timestamp => .fixed 4
    | some .commentary | some .notice | some .speed | some .copyright => .long
    | none => if code = 8 then .special else .long
  else
    match CarKind.ofCode? code with
    | some .positionUpdate => .special
    | some .positionHistory => .long
    | none => .short

/-- The only constant frame length is four bytes. -/
theorem LengthEncoding.eq_of_ofCategory_eq_fixed {car code n : Nat}
    (h : ofCategory car code = .fixed n) : n = 4 := by
  unfold ofCategory at h
  split at h <;> split at h <;> first | cases h | (split at h <;> cases h)
  rfl

end TimingFeed
