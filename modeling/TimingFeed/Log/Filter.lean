import TimingFeed.Config.Basic
import TimingFeed.Log.Field
import TimingFeed.Text.Bytes

/-!
# Log filters

A filter is a list of rules, each with a level up to which lines are shown. A rule
may be for one target, a part of the program, and for spans with a name or with
a field. Rules are separated by commas.

* `LogFilter.ofText?` reads a filter, `LogFilter.text` writes it, the most specific
  rules first;
* `LogFilter.ofSettings` is the filter in use: one from the environment, if it can be
  read, or else the configured level for everything.
-/

namespace TimingFeed

/-- Up to which level lines are shown; nothing for no lines at all. -/
abbrev LevelLimit := Option LogLevel

/-- A level limit as it is written. -/
def LevelLimit.text (l : LevelLimit) : String := (l.map LogLevel.lowerName).getD "off"

/-- Read a level limit: a level by name or number, `off` or 0. -/
def LevelLimit.ofText? (s : String) : Option LevelLimit :=
  match Text.readUnsigned LogLevel.maxNumber s.toList with
  | some 0 => some none
  | _ =>
    if s.toList.map Char.toLower = "off".toList then some none
    else (LogLevel.ofText? s).map some

/-- One rule of a filter. -/
structure LogRule where
  target : Option String := none
  /-- The name of a span, if the rule is for spans of one name. -/
  spanName : Option String := none
  /-- The field that a span must have, perhaps with a value. -/
  field : Option FieldRule := none
  limit : LevelLimit := some .trace
  deriving DecidableEq, Repr

namespace LogRule

/-- A character that a target may begin with. -/
def isTargetStart (c : Char) : Bool :=
  Text.isLetterOrNumber c || c = '_' || c = '-' || c = ':'

/-- A rule while it is read: its text, and its shape, which is the text without white space
around it. Places are found in the shape, and what stands there is taken from the text, at
the same number of bytes from its start. -/
structure Draft where
  text : List Char
  shape : List Char

namespace Draft

/-- Begin to read a text. -/
def ofText (s : List Char) : Draft := ⟨s, Text.trim s⟩

/-- What stands from a place on, given by the rest of the shape there. -/
def tail? (d : Draft) (rest : List Char) : Option (List Char) :=
  Text.dropBytes? (Text.byteLength d.shape - Text.byteLength rest) d.text

/-- What stands between two places. -/
def between? (d : Draft) (start stop : List Char) : Option String :=
  (d.tail? start).bind fun s =>
    (Text.takeBytes? (Text.byteLength start - Text.byteLength stop) s).map String.ofList

end Draft

/-- Read the level after a target; without one all levels are shown. -/
def readLimit? (d : Draft) (s : List Char) : Option LevelLimit :=
  match s with
  | [] => some (some .trace)
  | '=' :: rest =>
    (d.tail? rest).bind fun
      | [] => some (some .trace)
      | level => LevelLimit.ofText? (String.ofList level)
  | _ => none

/-- Read a span, its field and the level after it. -/
def readSpan? (d : Draft) (target : Option String) (s : List Char) : Option LogRule := do
  let afterName := s.dropWhile fun c => c ≠ '\x7b' && c ≠ ']'
  let name ← d.between? s afterName
  match afterName with
  | ']' :: rest => return { target, spanName := some name, limit := ← readLimit? d rest }
  | '\x7b' :: inner =>
    let afterField := inner.dropWhile (· ≠ '\x7d')
    let field ← d.between? inner afterField
    match afterField with
    | '\x7d' :: ']' :: rest =>
      if field = "" then none
      else
        let field ← FieldRule.ofText? field
        let limit ← readLimit? d rest
        return { target, spanName := if name = "" then none else some name, field, limit }
    | _ => none
  | _ => none

/-- Read one rule: a level, or a target or span with or without a level. -/
def ofText? (s : List Char) : Option LogRule := do
  let d := Draft.ofText s
  match d.shape with
  | [] => none
  | '[' :: rest => readSpan? d none rest
  | c :: _ =>
    if isTargetStart c then
      let afterTarget := d.shape.dropWhile fun c => c ≠ '=' && c ≠ '['
      match afterTarget with
      | [] =>
        match LevelLimit.ofText? (String.ofList d.text) with
        | some limit => return { limit }
        | none => return { target := some (String.ofList d.text) }
      | '[' :: rest => readSpan? d (some (← d.between? d.shape afterTarget)) rest
      | level =>
        let target ← d.between? d.shape afterTarget
        return { target := some target, limit := ← readLimit? d level }
    else none

/-- Whether a rule is for certain spans only. -/
def isForSpans (r : LogRule) : Bool := r.spanName.isSome || r.field.isSome

/-- Whether a rule asks for the presence of a field and for nothing else of a span. -/
def asksForFieldOnly (r : LogRule) : Bool :=
  r.spanName.isNone && r.field.all fun f => f.value.isNone

/-- A rule as it is written. -/
def text (r : LogRule) : String :=
  let field := (r.field.map fun f => "\x7b" ++ f.text ++ "\x7d").getD ""
  let span := if r.isForSpans then "[" ++ r.spanName.getD "" ++ field ++ "]" else ""
  let scope := r.target.getD "" ++ span
  if r.target.isSome || r.isForSpans then scope ++ "=" ++ r.limit.text else r.limit.text

/-- The order of rules by what they are for. The more specific rule is the greater one: a
longer target, a span name, a field. Equally specific rules are in the order of their
targets, span names and fields. -/
protected def compare (r s : LogRule) : Ordering :=
  [Ord.compare (r.target.map String.utf8ByteSize) (s.target.map String.utf8ByteSize),
    Ord.compare r.spanName.isSome s.spanName.isSome,
    Ord.compare r.field.isSome s.field.isSome,
    Ord.compare r.target s.target,
    Ord.compare r.spanName s.spanName,
    Ord.compare r.field s.field].foldr Ordering.then .eq

end LogRule

/-- A filter: rules for all lines, and rules for lines in certain spans. -/
structure LogFilter where
  statics : List LogRule := []
  dynamics : List LogRule := []
  deriving DecidableEq, Repr

namespace LogFilter

/-- Put a rule into its place, the greater rules before it; it replaces a rule for the
same lines. -/
def insert (rules : List LogRule) (r : LogRule) : List LogRule :=
  match rules with
  | [] => [r]
  | s :: rest =>
    match r.compare s with
    | .eq => r :: rest
    | .gt => r :: s :: rest
    | .lt => s :: insert rest r

/-- The filter of some rules. A rule that asks for a field only belongs to both parts. -/
def ofRules (rules : List LogRule) : LogFilter :=
  let spans := rules.filter LogRule.isForSpans
  let others := rules.filter fun r => !r.isForSpans
  { statics := (others ++ spans.filter LogRule.asksForFieldOnly).foldl insert []
    dynamics := spans.foldl insert [] }

/-- Read a filter. Empty rules are passed over. -/
def ofText? (s : String) : Option LogFilter :=
  let parts := (Text.splitAt ',' s.toList).filter (· ≠ [])
  (parts.mapM LogRule.ofText?).map ofRules

/-- A filter as it is written. -/
def text (f : LogFilter) : String :=
  ",".intercalate ((f.statics ++ f.dynamics).map LogRule.text)

/-- The filter in use: the one that the environment holds as bytes, if it can be read,
or else the configured level. -/
def ofSettings (c : LoggingConfig) (override : Option ByteArray) : LogFilter :=
  ((override.bind String.fromUTF8?).bind ofText?).getD (ofRules [{ limit := some c.logLevel }])

end LogFilter

/-- Set the log up where one is in use already, or without a console: nothing is done,
and that is no error. -/
def LoggingConfig.startsQuietly (c : LoggingConfig) (inUse : Bool) : Bool :=
  !c.logToConsole || inUse

end TimingFeed
