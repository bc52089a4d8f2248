import TimingFeed.Text.Hex
import TimingFeed.Text.Hidden

/-!
# Quoted text in reports

A text between double quotes, with escapes for the quotes, the backslash, the
usual control characters and everything that does not show.
-/

namespace TimingFeed.Text

/-- A character as it stands between the quotes. -/
def reportChar (c : Char) : List Char :=
  if c = '\x00' then ['\\', '0']
  else if c = '\t' then ['\\', 't']
  else if c = '\n' then ['\\', 'n']
  else if c = '\r' then ['\\', 'r']
  else if c = '"' ∨ c = '\\' then ['\\', c]
  else if isHidden c then
    ['\\', 'u', '\x7b'] ++ hexShort .lower c.toNat ++ ['\x7d']
  else [c]

/-- A text between quotes. -/
def quoted (s : String) : String :=
  String.ofList ('"' :: s.toList.flatMap reportChar ++ ['"'])

/-- The last line of a text that is not empty; line ends after it do not count. -/
def lastLine (s : String) : String :=
  let reversed := s.toList.reverse.dropWhile (· = '\n')
  String.ofList (reversed.takeWhile (· ≠ '\n')).reverse

end TimingFeed.Text
