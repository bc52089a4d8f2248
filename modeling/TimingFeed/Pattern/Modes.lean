import TimingFeed.Text.Blank

/-!
# Modes of a pattern

How a pattern is read depends on modes, which the pattern itself may switch: for the rest
of a group, or for a group of its own. A list of modes is letters, each at most once;
those after a minus sign are switched off.

* `PatternModes.skip` passes over what stands between two parts of a pattern;
* `PatternModes.switch?` reads a list of modes.
-/

namespace TimingFeed

/-- The modes that decide how a pattern is read. -/
structure PatternModes where
  /-- Letters match in either case. -/
  ignoresCase : Bool := false
  /-- Blanks and comments between the parts of a pattern do not belong to it. -/
  ignoresBlanks : Bool := false
  /-- The pattern is for characters of Unicode, and not for single bytes. -/
  unicode : Bool := true
  deriving DecidableEq, Repr

namespace PatternModes

/-- Pass over blanks and comments, beginning in a comment or outside. A comment goes
from a number sign to the end of the line. -/
def skipBlanks (inComment : Bool) : List Char → List Char
  | [] => []
  | c :: s =>
    if inComment then skipBlanks (c ≠ '\n') s
    else if Text.isBlank c then skipBlanks false s
    else if c = '#' then skipBlanks true s
    else c :: s

/-- Pass over what does not belong to the pattern. -/
def skip (m : PatternModes) (s : List Char) : List Char :=
  if m.ignoresBlanks then skipBlanks false s else s

/-- The character ahead of a place where blanks may stand. Of a comment its first
character is taken, and of nothing but blanks the first one. -/
def ahead? (m : PatternModes) (s : List Char) : Option Char :=
  if m.ignoresBlanks then
    let t := match s.dropWhile Text.isBlank with
      | '#' :: t => t.dropWhile Text.isBlank
      | t => t
    t.head?.or s.head?
  else s.head?

/-- Switch one mode by its letter. Four letters stand for modes that decide what a
pattern matches and not how it is read. -/
def set? (m : PatternModes) (letter : Char) (on : Bool) : Option PatternModes :=
  match letter with
  | 'i' => some { m with ignoresCase := on }
  | 'x' => some { m with ignoresBlanks := on }
  | 'u' => some { m with unicode := on }
  | 'm' | 's' | 'U' | 'R' => some m
  | _ => none

/-- Switch modes by a list, whose characters so far are `seen`, the last one first. The
list ends before a colon or a closing parenthesis, and not after a minus sign. -/
def switch? (m : PatternModes) (seen : List Char) : List Char → Option (PatternModes × List Char)
  | [] => none
  | c :: rest =>
    if c = ':' ∨ c = ')' then
      if seen.head? = some '-' then none else some (m, c :: rest)
    else if c ∈ seen then none
    else if c = '-' then m.switch? (c :: seen) rest
    else (m.set? c ( '-' ∉ seen)).bind fun m => m.switch? (c :: seen) rest

end PatternModes

end TimingFeed
