import TimingFeed.Pattern.Atom
import TimingFeed.Pattern.Depth

/-!
# Brackets in a pattern

A set of characters stands in brackets: characters, ranges, classes and further sets in
brackets, and two sets joined by a sign of two ampersands, minus signs or tildes. A caret
at the start takes all other characters. Minus signs at the start are members, and so is a
closing bracket that would make the set empty.

* `CharSet.read?` reads a set after its opening bracket and gives its depth.
-/

namespace TimingFeed

/-- A set of characters while it is read: the depths of its members so far, and the depth
of what stands before the last sign between two sets. -/
structure CharSet where
  members : PartDepths := {}
  left : Option Nat := none
  deriving DecidableEq, Repr

namespace CharSet

/-- One more member. -/
def add (b : CharSet) (depth : Nat) : CharSet := { b with members := b.members.add depth }

/-- The depth of what is read so far. -/
def depth (b : CharSet) : Nat :=
  match b.left with
  | none => b.members.depth
  | some left => max left b.members.depth + 1

/-- The names of classes. -/
def classNames : List String :=
  ["alnum", "alpha", "ascii", "blank", "cntrl", "digit", "graph", "lower", "print", "punct",
    "space", "upper", "word", "xdigit"]

/-- Read a named class after its opening bracket, as in `[:alpha:]`. Gives whether it is
negated. -/
def namedClass? : List Char → Option (Bool × List Char)
  | ':' :: s =>
    let (negated, s) := match s with
      | '^' :: rest => (true, rest)
      | _ => (false, s)
    match s.dropWhile (· ≠ ':') with
    | ':' :: ']' :: rest =>
      if String.ofList (s.takeWhile (· ≠ ':')) ∈ classNames then some (negated, rest) else none
    | _ => none
  | _ => none

/-- Whether a named class may stand in brackets. -/
def isNamedMember (m : PatternModes) (negated : Bool) : Bool :=
  if m.unicode then !m.ignoresCase else !negated

/-- Take minus signs as members. -/
def takeDashes (m : PatternModes) : Nat → CharSet → List Char → CharSet × List Char
  | 0, b, s => (b, s)
  | n + 1, b, s =>
    match m.skip s with
    | '-' :: rest => takeDashes m n (b.add 0) rest
    | t => (b, t)

/-- Begin a set after its opening bracket. Of bytes, all others are no set of characters. -/
def open? (m : PatternModes) (s : List Char) : Option (CharSet × List Char) :=
  let (negated, s) := match m.skip s with
    | '^' :: rest => (true, rest)
    | t => (false, t)
  let (b, s) := takeDashes m (s.length + 1) {} s
  let (b, s) := match s with
    | ']' :: rest => if b.members.count = 0 then (b.add 0, rest) else (b, s)
    | _ => (b, s)
  let isRefused := b.members.count ≠ 0 && !(PatternAtom.char '-' false).isMember m
  if negated && !m.unicode || isRefused then none else some (b, s)

/-- Read one member that is not in brackets: an atom or a range. -/
def member? (m : PatternModes) (s : List Char) : Option (List Char) :=
  (PatternAtom.readMember? m s).bind fun (first, rest) =>
    if !first.isMember m then none
    else
      match m.skip rest with
      | '-' :: after =>
        if m.ahead? after = some ']' ∨ m.ahead? after = some '-' then some rest
        else
          (PatternAtom.readMember? m (m.skip after)).bind fun (last, rest) =>
            match first, last with
            | .char low _, .char high _ =>
              if low ≤ high ∧ last.isMember m = true then some rest else none
            | _, _ => none
      | _ => some rest

/-- Read the members of a set up to its closing bracket. Gives the depth of the set. -/
def readMembers? : Nat → PatternModes → CharSet → List Char → Option (Nat × List Char)
  | 0, _, _, _ => none
  | n + 1, m, b, s =>
    match m.skip s with
    | [] => none
    | ']' :: rest => some (b.depth + 1, rest)
    | '[' :: rest =>
      match namedClass? rest with
      | some (negated, rest) =>
        if isNamedMember m negated then readMembers? n m (b.add 0) rest else none
      | none =>
        (open? m rest).bind fun (inner, rest) =>
          (readMembers? n m inner rest).bind fun (depth, rest) =>
            readMembers? n m (b.add depth) rest
    | c :: rest =>
      if (c = '&' ∨ c = '-' ∨ c = '~') ∧ rest.head? = some c then
        readMembers? n m { left := some b.depth } rest.tail
      else (member? m (c :: rest)).bind fun rest => readMembers? n m (b.add 0) rest

/-- Read a set after its opening bracket. Gives its depth. -/
def read? (m : PatternModes) (s : List Char) : Option (Nat × List Char) :=
  (open? m s).bind fun (b, rest) => readMembers? (rest.length + 1) m b rest

end CharSet

end TimingFeed
