import TimingFeed.Text.Hex
import TimingFeed.Toml.Value

/-!
# Writing a document

Documents of one kind are written: sections of scalar values, each section under
its header, with an empty line between them.

* `Quoting.choose` picks how a string is quoted;
* `quote` writes a string, `Section.lines` a section, `renderSections` a document.

A string stands in double quotes if none of its characters asks for more. One that
holds a double quote or a backslash goes into single quotes, one that holds both
kinds of quotes or a line end into triple quotes. Only a string that no form can
hold as it is gets escapes beyond those for control characters.
-/

namespace TimingFeed.Toml

/-- The four ways to quote a string. -/
inductive Quoting
  | basic
  | literal
  | multilineBasic
  | multilineLiteral
  deriving DecidableEq, Repr

/-- The length of the longest run of a character. -/
def longestRun (c : Char) (s : List Char) : Nat :=
  (s.foldl (fun (run, best) d => if d = c then (run + 1, max best (run + 1)) else (0, best))
    ((0, 0) : Nat × Nat)).2

/-- A control character that only an escape can write; tab and line feed are none. -/
def needsEscape (c : Char) : Bool :=
  c ≠ '\t' && c ≠ '\n' && (c.toNat < 0x20 || c.toNat = 0x7f)

namespace Quoting

/-- How a string is quoted: the first way that shows it as it is. -/
def choose (s : List Char) : Quoting :=
  let control := s.any needsEscape
  let backslash := s.contains '\\'
  let lineEnd := s.contains '\n'
  let double := longestRun '"' s
  let single := longestRun '\'' s
  if !control && !backslash && double = 0 && !lineEnd then basic
  else if !control && single = 0 && !lineEnd then literal
  else if !control && !backslash && double ≤ 2 then multilineBasic
  else if !control && single ≤ 2 then multilineLiteral
  else if lineEnd then multilineBasic
  else basic

/-- The quotes themselves. -/
def delimiter : Quoting → List Char
  | basic => ['"']
  | literal => ['\'']
  | multilineBasic => ['"', '"', '"']
  | multilineLiteral => ['\'', '\'', '\'']

/-- Whether the string may go over several lines. -/
def isMultiline : Quoting → Bool
  | basic | literal => false
  | multilineBasic | multilineLiteral => true

/-- Whether a backslash escapes. -/
def hasEscapes : Quoting → Bool
  | basic | multilineBasic => true
  | literal | multilineLiteral => false

end Quoting

/-- The escape of a control character. -/
def escapeControl (c : Char) : List Char :=
  if c = '\x08' then ['\\', 'b']
  else if c = '\t' then ['\\', 't']
  else if c = '\n' then ['\\', 'n']
  else if c = '\x0c' then ['\\', 'f']
  else if c = '\r' then ['\\', 'r']
  else '\\' :: 'u' :: Text.hexFixed .upper 4 c.toNat

/-- A string with its escapes. With several lines, line ends stand as they are, and
of a run of double quotes every third is escaped; the number counts the quotes
before. -/
def escapeFrom (multiline : Bool) : Nat → List Char → List Char
  | _, [] => []
  | quotes, c :: rest =>
    if c = '"' then
      if quotes < (if multiline then 2 else 0) then
        '"' :: escapeFrom multiline (quotes + 1) rest
      else '\\' :: '"' :: escapeFrom multiline 0 rest
    else if c = '\\' then '\\' :: '\\' :: escapeFrom multiline 0 rest
    else if c = '\n' ∧ multiline then '\n' :: escapeFrom multiline 0 rest
    else if c.toNat < 0x20 ∨ c.toNat = 0x7f then escapeControl c ++ escapeFrom multiline 0 rest
    else c :: escapeFrom multiline 0 rest

/-- A string in a given way of quoting. A string with line ends begins on a new line. -/
def quoteAs (q : Quoting) (s : List Char) : List Char :=
  let opening := if q.isMultiline && s.contains '\n' then q.delimiter ++ ['\n'] else q.delimiter
  let body := if q.hasEscapes then escapeFrom q.isMultiline 0 s else s
  opening ++ body ++ q.delimiter

/-- A string as it is written. -/
def quote (s : List Char) : List Char := quoteAs (.choose s) s

/-- A value that fits on a line. -/
inductive Scalar
  | string (text : String)
  | integer (n : Int)
  | boolean (b : Bool)
  deriving DecidableEq, Repr

/-- A scalar as a value. -/
def Scalar.toValue : Scalar → Value
  | string text => .string text
  | integer n => .integer n
  | boolean b => .boolean b

/-- A scalar as it is written. -/
def Scalar.render : Scalar → List Char
  | string text => quote text.toList
  | integer n => (toString n).toList
  | boolean b => if b then "true".toList else "false".toList

/-- A header and the pairs under it. -/
structure Section where
  name : String
  pairs : List (String × Scalar)
  deriving DecidableEq, Repr

/-- A section as it is written, each line with its end. -/
def Section.render (s : Section) : List Char :=
  "[".toList ++ s.name.toList ++ "]\n".toList ++
    s.pairs.flatMap fun p => p.1.toList ++ " = ".toList ++ p.2.render ++ ['\n']

/-- A document of sections, with an empty line between them. -/
def renderSections (sections : List Section) : List Char :=
  ['\n'].intercalate (sections.map Section.render)

end TimingFeed.Toml
