import TimingFeed.Cipher.Keystream

/-!
# Packet caches

A cache is a queue of packets, the oldest first. Packets are kept as they were
framed, so encrypted payloads stay encrypted until a key is known.

`PacketCache.toList` is the view in which every operation is described.
-/

namespace TimingFeed

/-- A queue of packets. -/
structure PacketCache where
  packets : Array Packet := #[]
  deriving DecidableEq, Repr

namespace PacketCache

/-- The packets, the oldest first. -/
def toList (c : PacketCache) : List Packet := c.packets.toList

/-- The cache of these packets. -/
def ofList (ps : List Packet) : PacketCache := ⟨ps.toArray⟩

/-- The cache without packets. -/
def empty : PacketCache := {}

/-- The number of packets. -/
def size (c : PacketCache) : Nat := c.packets.size

/-- Whether there are no packets. -/
def isEmpty (c : PacketCache) : Bool := c.packets.isEmpty

/-- Add a packet as the newest. -/
def push (c : PacketCache) (p : Packet) : PacketCache := ⟨c.packets.push p⟩

/-- Add packets in order. -/
def append (c : PacketCache) (ps : List Packet) : PacketCache := ⟨c.packets ++ ps⟩

/-- The oldest packet. -/
def head? (c : PacketCache) : Option Packet := c.packets[0]?

/-- Take the oldest packet out. -/
def dropHead (c : PacketCache) : Option Packet × PacketCache :=
  (c.head?, ⟨c.packets.extract 1⟩)

/-- Take the payloads through one keystream, in order. -/
def maskWith (c : PacketCache) (key : Word) : PacketCache :=
  ofList ((Keystream.start key).maskPayloads c.toList)

@[simp] theorem toList_ofList (ps : List Packet) : (ofList ps).toList = ps := rfl

@[simp] theorem ofList_toList (c : PacketCache) : ofList c.toList = c := by
  simp [ofList, toList]

@[simp] theorem toList_empty : empty.toList = [] := rfl

@[simp] theorem size_eq_length (c : PacketCache) : c.size = c.toList.length := by
  simp [size, toList]

@[simp] theorem toList_push (c : PacketCache) (p : Packet) :
    (c.push p).toList = c.toList ++ [p] := by
  simp [push, toList]

@[simp] theorem toList_append (c : PacketCache) (ps : List Packet) :
    (c.append ps).toList = c.toList ++ ps := by
  simp [append, toList]

@[simp] theorem head?_eq (c : PacketCache) : c.head? = c.toList.head? := by
  simp [head?, toList, List.head?_eq_getElem?]

@[simp] theorem toList_dropHead (c : PacketCache) : c.dropHead.2.toList = c.toList.tail := by
  simp only [dropHead, toList, Array.toList_extract, List.extract_eq_take_drop, List.drop_one]
  exact List.take_of_length_le (by simp)

end PacketCache

end TimingFeed
