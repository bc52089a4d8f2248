import TimingFeed.Text.Hex
import TimingFeed.Text.Integer

/-!
# Blanks, lines and strings of the format

The lowest level of the grammar, on lists of characters. A reader gives what it
has read and the rest of the text, or nothing.

* `skipBlank`, `lineEnd?` and `skipLines` pass over blanks, comments and line ends;
* `string?` reads the four kinds of strings, `bareKey` the keys without quotes.
-/

namespace TimingFeed.Toml

/-- A blank within a line. -/
def isBlank (c : Char) : Bool := c = ' ' || c = '\t'

/-- Pass over blanks within a line. -/
def skipBlank (s : List Char) : List Char := s.dropWhile isBlank

/-- A character that may stand in a comment or a string as it is: no control
character but the tab. -/
def isPlain (c : Char) : Bool := c = '\t' || 0x20 ≤ c.toNat && c.toNat ≠ 0x7f

/-- Pass over one line end. -/
def newline? : List Char → Option (List Char)
  | '\n' :: rest => some rest
  | '\r' :: '\n' :: rest => some rest
  | _ => none

/-- Pass over a comment, up to the end of its line. -/
def skipComment : List Char → List Char
  | '#' :: rest => rest.dropWhile isPlain
  | s => s

/-- Pass over blanks, a comment and the end of the line or of the text. -/
def lineEnd? (s : List Char) : Option (List Char) :=
  match skipComment (skipBlank s) with
  | [] => some []
  | rest => newline? rest

/-- Pass over any number of blanks, line ends and comments; the flag says whether
a comment has begun. -/
def skipLines : Bool → List Char → List Char
  | _, '\n' :: rest => skipLines false rest
  | _, '\r' :: '\n' :: rest => skipLines false rest
  | false, c :: rest =>
    if isBlank c then skipLines false rest
    else if c = '#' then skipLines true rest
    else c :: rest
  | true, c :: rest => if isPlain c then skipLines true rest else c :: rest
  | _, [] => []

/-- The character that a letter stands for after a backslash. -/
def escaped? : Char → Option Char
  | 'b' => some '\x08'
  | 't' => some '\t'
  | 'n' => some '\n'
  | 'f' => some '\x0c'
  | 'r' => some '\r'
  | '"' => some '"'
  | '\\' => some '\\'
  | _ => none

/-- Put a character before what a reader has read. -/
def before (c : Char) (r : Option (List Char × List Char)) : Option (List Char × List Char) :=
  r.map fun (cs, rest) => (c :: cs, rest)

/-- The rest of a string in double quotes on one line. -/
def basicBody : List Char → Option (List Char × List Char)
  | '"' :: rest => some ([], rest)
  | '\\' :: 'u' :: a :: b :: c :: d :: rest =>
    (Text.codePoint? [a, b, c, d]).bind fun x => before x (basicBody rest)
  | '\\' :: 'U' :: a :: b :: c :: d :: e :: f :: g :: h :: rest =>
    (Text.codePoint? [a, b, c, d, e, f, g, h]).bind fun x => before x (basicBody rest)
  | '\\' :: c :: rest => (escaped? c).bind fun x => before x (basicBody rest)
  | c :: rest => if isPlain c then before c (basicBody rest) else none
  | [] => none

/-- The rest of a string in single quotes on one line. -/
def literalBody : List Char → Option (List Char × List Char)
  | '\'' :: rest => some ([], rest)
  | c :: rest => if isPlain c then before c (literalBody rest) else none
  | [] => none

/-- After the three quotes that close a string of several lines: up to two more
quotes before them belong to the string. -/
def closing (quote : Char) : List Char → List Char × List Char
  | a :: b :: rest =>
    if a = quote ∧ b = quote then ([a, b], rest)
    else if a = quote then ([a], b :: rest)
    else ([], a :: b :: rest)
  | [a] => if a = quote then ([a], []) else ([], [a])
  | [] => ([], [])

/-- Where the reader of a string of several lines stands. -/
inductive Trim
  /-- In the text. -/
  | off
  /-- After a backslash at the end of a line, before the line end. -/
  | toLineEnd
  /-- After that line end: blanks and line ends are dropped. -/
  | toText
  deriving DecidableEq, Repr

/-- The rest of a string in triple double quotes. A backslash at the end of a line
drops the line end and all blanks and line ends after it. -/
def multilineBasicBody : Trim → List Char → Option (List Char × List Char)
  | .off, '\n' :: rest => before '\n' (multilineBasicBody .off rest)
  | .off, '\r' :: '\n' :: rest => before '\n' (multilineBasicBody .off rest)
  | _, '\n' :: rest => multilineBasicBody .toText rest
  | _, '\r' :: '\n' :: rest => multilineBasicBody .toText rest
  | .toLineEnd, c :: rest =>
    if isBlank c then multilineBasicBody .toLineEnd rest else none
  | .toText, ' ' :: rest => multilineBasicBody .toText rest
  | .toText, '\t' :: rest => multilineBasicBody .toText rest
  | _, '"' :: '"' :: '"' :: rest => some (closing '"' rest)
  | _, '\\' :: 'u' :: a :: b :: c :: d :: rest =>
    (Text.codePoint? [a, b, c, d]).bind fun x => before x (multilineBasicBody .off rest)
  | _, '\\' :: 'U' :: a :: b :: c :: d :: e :: f :: g :: h :: rest =>
    (Text.codePoint? [a, b, c, d, e, f, g, h]).bind fun x => before x (multilineBasicBody .off rest)
  | _, '\\' :: '\n' :: rest => multilineBasicBody .toText rest
  | _, '\\' :: '\r' :: '\n' :: rest => multilineBasicBody .toText rest
  | _, '\\' :: c :: rest =>
    if isBlank c then multilineBasicBody .toLineEnd rest
    else (escaped? c).bind fun x => before x (multilineBasicBody .off rest)
  | _, c :: rest => if isPlain c then before c (multilineBasicBody .off rest) else none
  | _, [] => none

/-- The rest of a string in triple single quotes. -/
def multilineLiteralBody : List Char → Option (List Char × List Char)
  | '\n' :: rest => before '\n' (multilineLiteralBody rest)
  | '\r' :: '\n' :: rest => before '\n' (multilineLiteralBody rest)
  | '\'' :: '\'' :: '\'' :: rest => some (closing '\'' rest)
  | c :: rest => if isPlain c then before c (multilineLiteralBody rest) else none
  | [] => none

/-- The text without a line end at its start. -/
def dropNewline (s : List Char) : List Char := (newline? s).getD s

/-- Read a string of any of the four kinds. -/
def string? : List Char → Option (List Char × List Char)
  | '"' :: '"' :: '"' :: rest => multilineBasicBody .off (dropNewline rest)
  | '\'' :: '\'' :: '\'' :: rest => multilineLiteralBody (dropNewline rest)
  | '"' :: rest => basicBody rest
  | '\'' :: rest => literalBody rest
  | _ => none

/-- A character of a key without quotes. -/
def isBare (c : Char) : Bool := c.isAlphanum || c = '_' || c = '-'

/-- Read one part of a key. -/
def keyPart? : List Char → Option (List Char × List Char)
  | '"' :: rest => basicBody rest
  | '\'' :: rest => literalBody rest
  | s =>
    let part := s.takeWhile isBare
    if part = [] then none else some (part, s.dropWhile isBare)

/-- Read a key of at most `limit` parts with points between them, and the blanks
around it. -/
def keyPath? : Nat → List Char → Option (List String × List Char)
  | 0, _ => none
  | limit + 1, s =>
    (keyPart? (skipBlank s)).bind fun (part, rest) =>
      match skipBlank rest with
      | '.' :: more =>
        (keyPath? limit more).map fun (path, rest) => (String.ofList part :: path, rest)
      | rest => some ([String.ofList part], rest)

end TimingFeed.Toml
