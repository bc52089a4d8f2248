import TimingFeed.Text.Integer

/-!
# Log levels

The five levels, from the least to the most detailed.

* `LogLevel.name` is the upper-case name, `LogLevel.lowerName` the lower-case one;
* `LogLevel.ofText?` reads a name in any ASCII case, or the level's number;
* `LogLevel.ofText?_lowerName` says that a written level is read back.
-/

namespace TimingFeed

/-- How detailed a log line is. -/
inductive LogLevel
  | error
  | warn
  | info
  | debug
  | trace
  deriving DecidableEq, Repr

namespace LogLevel

/-- All levels, the least detailed first. -/
def all : List LogLevel := [error, warn, info, debug, trace]

/-- The name in upper case. -/
def name : LogLevel → String
  | error => "ERROR"
  | warn => "WARN"
  | info => "INFO"
  | debug => "DEBUG"
  | trace => "TRACE"

/-- The name in lower case. -/
def lowerName : LogLevel → String
  | error => "error"
  | warn => "warn"
  | info => "info"
  | debug => "debug"
  | trace => "trace"

/-- The number of a level, 1 for errors only. -/
def number : LogLevel → Nat
  | error => 1
  | warn => 2
  | info => 3
  | debug => 4
  | trace => 5

/-- The largest number that is read at all. -/
def maxNumber : Nat := 0xFFFFFFFFFFFFFFFF

/-- Read a level: its number, or its name in any ASCII case. -/
def ofText? (s : String) : Option LogLevel :=
  match Text.readUnsigned maxNumber s.toList with
  | some n => all.find? (fun l => l.number = n)
  | none => all.find? (fun l => l.lowerName.toList = s.toList.map Char.toLower)

theorem ofText?_lowerName (l : LogLevel) : ofText? l.lowerName = some l := by
  cases l <;> decide

end LogLevel

end TimingFeed
