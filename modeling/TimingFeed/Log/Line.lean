import TimingFeed.Log.Level

/-!
# Log lines

A log line is a level, a fixed message and named values. `LogLine.text` writes it
as `LEVEL message field=value field=value`.
-/

namespace TimingFeed

/-- One line of the log. -/
structure LogLine where
  level : LogLevel
  message : String
  fields : List (String × String) := []
  deriving DecidableEq, Repr

/-- The line as text, its fields in order. -/
def LogLine.text (l : LogLine) : String :=
  " ".intercalate ([l.level.name, l.message] ++ l.fields.map fun f => f.1 ++ "=" ++ f.2)

end TimingFeed
