import TimingFeed.Pattern.Brackets
import TimingFeed.Text.Letter

/-!
# Patterns

A pattern describes texts: atoms, sets in brackets and groups in parentheses follow each
other, a vertical bar stands between alternatives, and a part may be repeated by one of
the signs `?`, `*` and `+`. Repetitions by a count need braces, which are not available.

* `Pattern.isValid` says which texts are patterns.
-/

namespace TimingFeed.Pattern

/-- How deep the constructs of a pattern may be nested. -/
def maxDepth : Nat := 250

/-- A pattern, or what stands in a group, while it is read. -/
structure Body where
  /-- The names of groups in the whole pattern so far. -/
  names : List (List Char) := []
  /-- The finished alternatives. -/
  alternatives : PartDepths := {}
  /-- The parts of the current alternative before the last one. -/
  parts : PartDepths := {}
  /-- The depth of the last part, if it may be repeated. -/
  last : Option Nat := none
  deriving DecidableEq, Repr

namespace Body

/-- All parts of the current alternative. -/
def allParts (b : Body) : PartDepths :=
  match b.last with
  | none => b.parts
  | some depth => b.parts.add depth

/-- One more part. -/
def add (b : Body) (depth : Nat) : Body := { b with parts := b.allParts, last := some depth }

/-- A switch of modes, which is a part that cannot be repeated. -/
def addSwitch (b : Body) : Body := { b with parts := b.allParts.add 0, last := none }

/-- Repeat the last part. -/
def repeat? (b : Body) : Option Body := b.last.map fun depth => { b with last := some (depth + 1) }

/-- The alternatives with the current one. -/
def allAlternatives (b : Body) : PartDepths := b.alternatives.add b.allParts.depth

/-- Begin another alternative. -/
def nextAlternative (b : Body) : Body :=
  { b with alternatives := b.allAlternatives, parts := {}, last := none }

/-- The depth of what is read so far. -/
def depth (b : Body) : Nat := b.allAlternatives.depth

/-- Take the name of a group, if it has one. No two groups have the same name. -/
def declare? (b : Body) (name : Option (List Char)) : Option (List (List Char)) :=
  match name with
  | none => some b.names
  | some name => if name ∈ b.names then none else some (name :: b.names)

end Body

/-- What an opening parenthesis begins. -/
inductive Opening
  /-- A switch of modes for the rest of the group around it. -/
  | switch (modes : PatternModes)
  /-- A group, perhaps with modes of its own or with a name. -/
  | group (modes : PatternModes) (name : Option (List Char))
  deriving DecidableEq, Repr

namespace Opening

/-- Whether a text may be the name of a group: a letter or an underscore, then letters,
numbers and some signs. -/
def isName : List Char → Bool
  | [] => false
  | c :: s =>
    (c = '_' || Text.isLetter c) &&
      s.all fun d => Text.isLetterOrNumber d || d ∈ ['_', '.', '[', ']']

/-- Read the name of a group up to the angle bracket after it. -/
def name? (s : List Char) : Option (List Char × List Char) :=
  match s.dropWhile (· ≠ '>') with
  | '>' :: rest =>
    let name := s.takeWhile (· ≠ '>')
    if isName name then some (name, rest) else none
  | _ => none

/-- Read what follows an opening parenthesis. -/
def read? (m : PatternModes) (s : List Char) : Option (Opening × List Char) :=
  match m.skip s with
  | '?' :: 'P' :: '<' :: rest | '?' :: '<' :: rest =>
    (name? rest).map fun (name, rest) => (group m (some name), rest)
  | '?' :: ')' :: _ => none
  | '?' :: rest =>
    (m.switch? [] rest).bind fun
      | (modes, ')' :: rest) => some (switch modes, rest)
      | (modes, _ :: rest) => some (group modes none, rest)
      | _ => none
  | rest => some (group m none, rest)

end Opening

/-- Pass over the sign that makes a repetition as short as it can be. -/
def afterLazy : List Char → List Char
  | '?' :: rest => rest
  | s => s

/-- Read a pattern, or what stands in a group, up to the end or a closing parenthesis. -/
def readBody? : Nat → PatternModes → Body → List Char → Option (Body × List Char)
  | 0, _, _, _ => none
  | n + 1, m, b, s =>
    match m.skip s with
    | [] => some (b, [])
    | ')' :: rest => some (b, ')' :: rest)
    | '|' :: rest => readBody? n m b.nextAlternative rest
    | '[' :: rest =>
      (CharSet.read? m rest).bind fun (depth, rest) => readBody? n m (b.add depth) rest
    | '(' :: rest =>
      (Opening.read? m rest).bind fun
        | (.switch modes, rest) => readBody? n modes b.addSwitch rest
        | (.group modes name, rest) =>
          (b.declare? name).bind fun names =>
            (readBody? n modes { names } rest).bind fun
              | (inner, ')' :: rest) =>
                readBody? n m ({ b with names := inner.names }.add (inner.depth + 1)) rest
              | _ => none
    | '\x7b' :: _ => none
    | c :: rest =>
      if c = '?' ∨ c = '*' ∨ c = '+' then
        b.repeat?.bind fun b => readBody? n m b (afterLazy rest)
      else
        (PatternAtom.read? m (c :: rest)).bind fun (atom, rest) =>
          if atom.isAllowed m then readBody? n m (b.add 0) rest else none

/-- Whether a text is a pattern. -/
def isValid (s : List Char) : Bool :=
  match readBody? (s.length + 1) {} {} s with
  | some (b, []) => b.depth ≤ maxDepth
  | _ => false

end TimingFeed.Pattern
