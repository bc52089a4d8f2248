import TimingFeed.Pattern.Modes
import TimingFeed.Text.Hex

/-!
# Atoms of a pattern

The smallest parts of a pattern: characters, classes of characters and places. What needs
more knowledge of characters than ASCII gives, such as letter case in Unicode or the ends
of a word, is not available; neither is what could match a part of a character.

* `PatternAtom.escaped?` reads an atom after a backslash;
* `PatternAtom.isAllowed` and `PatternAtom.isMember` say which atoms may stand by
  themselves and in brackets.
-/

namespace TimingFeed

/-- An atom of a pattern. -/
inductive PatternAtom
  /-- A character, perhaps written as the code of a byte. -/
  | char (c : Char) (asByte : Bool)
  /-- Any character. -/
  | anything
  /-- Digits, blanks or word characters, or all others. -/
  | charClass (negated : Bool)
  /-- A place between two characters, perhaps an end of a word. -/
  | boundary (ofWord : Bool)
  deriving DecidableEq, Repr

namespace PatternAtom

/-- Read so many hexadecimal digits. -/
def code? (m : PatternModes) : Nat → List Char → Option (List Char × List Char)
  | 0, s => some ([], s)
  | width + 1, s =>
    match m.skip s with
    | [] => none
    | c :: rest => (code? m width rest).map fun (ds, s) => (c :: ds, s)

/-- Read a character by its code of so many digits. -/
def coded? (m : PatternModes) (width : Nat) (s : List Char) :
    Option (PatternAtom × List Char) :=
  (code? m width s).bind fun (ds, rest) =>
    (Text.codePoint? ds).map fun c => (char c (width = 2), rest)

/-- The character that a letter stands for after a backslash. -/
def control? : Char → Option Char
  | 'a' => some '\x07'
  | 't' => some '\t'
  | 'n' => some '\n'
  | 'v' => some '\x0b'
  | 'f' => some '\x0c'
  | 'r' => some '\r'
  | _ => none

/-- Read an atom after a backslash. Letters and digits of ASCII that stand for nothing
are refused, and so are all characters beyond ASCII. -/
def escaped? (m : PatternModes) : List Char → Option (PatternAtom × List Char)
  | [] => none
  | 'x' :: rest => coded? m 2 rest
  | 'u' :: rest => coded? m 4 rest
  | 'U' :: rest => coded? m 8 rest
  | c :: rest =>
    if c ∈ ['d', 's', 'w'] then some (charClass false, rest)
    else if c ∈ ['D', 'S', 'W'] then some (charClass true, rest)
    else if c ∈ ['A', 'z'] then some (boundary false, rest)
    else if c ∈ ['b', 'B', '<', '>'] then some (boundary true, rest)
    else
      match control? c with
      | some d => some (char d false, rest)
      | none =>
        if c.toNat < 0x80 ∧ c.isAlphanum = false then some (char c false, rest) else none

/-- Read an atom by itself. -/
def read? (m : PatternModes) : List Char → Option (PatternAtom × List Char)
  | [] => none
  | '\\' :: rest => escaped? m rest
  | '.' :: rest => some (anything, rest)
  | c :: rest => some (if c = '^' ∨ c = '$' then boundary false else char c false, rest)

/-- Read an atom in brackets. -/
def readMember? (m : PatternModes) : List Char → Option (PatternAtom × List Char)
  | [] => none
  | '\\' :: rest => escaped? m rest
  | c :: rest => some (char c false, rest)

/-- Whether a class of characters is available: of bytes, and within ASCII. -/
def isClassAllowed (m : PatternModes) (negated : Bool) : Bool := !m.unicode && !negated

/-- Whether an atom may stand by itself. -/
def isAllowed (m : PatternModes) : PatternAtom → Bool
  | char c asByte => if m.unicode then !m.ignoresCase else !asByte || c.toNat < 0x80
  | anything => m.unicode
  | charClass negated => isClassAllowed m negated
  | boundary ofWord => !(ofWord && m.unicode)

/-- Whether an atom may stand in brackets. -/
def isMember (m : PatternModes) : PatternAtom → Bool
  | char c _ => if m.unicode then !m.ignoresCase else c.toNat < 0x80
  | charClass negated => isClassAllowed m negated
  | anything | boundary _ => false

end PatternAtom

end TimingFeed
