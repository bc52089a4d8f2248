import TimingFeed.Config.Error
import TimingFeed.Toml.Reader

/-!
# Settings from a document

The sections `stream`, `session` and `logging` of a document hold the settings. A
section that is missing has its defaults; one that is there must be complete. Keys
that are not known are ignored.

* A section may be a table, or an array of its values in their fixed order.
* The values of a table are checked in the order in which they are written, and
  missing ones are found afterwards, in the fixed order.

`Config.ofDocument` reads all settings, `Config.ofText` parses the text before.
-/

namespace TimingFeed

open Toml (Value)

/-- How a report describes a value of the wrong kind. -/
def Toml.Value.description : Value → String
  | .string text => "string " ++ Text.quoted text
  | .integer n => "integer `" ++ toString n ++ "`"
  | .float x => "floating point `" ++ x.text ++ "`"
  | .boolean b => "boolean `" ++ (if b then "true" else "false") ++ "`"
  | .dateTime | .table _ => "map"
  | .array _ => "sequence"

namespace Setting

/-- A reader of one value. -/
abbrev Reader (α : Type) := Value → Except SettingError α

/-- Read a text. -/
def text : Reader String
  | .string s => .ok s
  | v => .error (.invalidType v.description "a string")

/-- Read an unsigned number below `2 ^ bits`; `expected` names its kind. -/
def unsigned (bits : Nat) (expected : String) : Reader Nat
  | .integer n =>
    if 0 ≤ n ∧ n < Nat.pow 2 bits then .ok n.toNat else .error (.invalidValue n expected)
  | v => .error (.invalidType v.description expected)

/-- Read a truth value. -/
def truth : Reader Bool
  | .boolean b => .ok b
  | v => .error (.invalidType v.description "a boolean")

/-- Read a time in milliseconds. -/
def millis : Reader Span := fun v => (unsigned 64 "u64" v).map Span.ofMillis

/-- Read a number that fits 64 bits. -/
def size : Reader UInt64 := fun v => (unsigned 64 "usize" v).map UInt64.ofNat

/-- Read a log level. -/
def level : Reader LogLevel := fun v =>
  (text v).bind fun s =>
    match LogLevel.ofText? s with
    | some l => .ok l
    | none => .error (.invalidLevel s)

/-- A key of a section and the check of its value. -/
structure Field where
  name : String
  check : Reader Unit

/-- The field that a reader reads. -/
def Field.of {α : Type} (name : String) (read : Reader α) : Field :=
  ⟨name, fun v => (read v).map fun _ => ()⟩

/-- Check the values of known keys in the order in which they are written. -/
def checkAll (fields : List Field) : List (String × Value) → Except SettingError Unit
  | [] => .ok ()
  | (key, v) :: rest =>
    match fields.find? (·.name = key) with
    | none => checkAll fields rest
    | some f => (f.check v).bind fun _ => checkAll fields rest

/-- Read the value of a key; `missing` is the error if it is not there. -/
def required {α : Type} (missing : String → SettingError) (entries : List (String × Value))
    (name : String) (read : Reader α) : Except SettingError α :=
  match Toml.find? name entries with
  | none => .error (missing name)
  | some v => read v

/-- Read a section: from a table, or from an array of the values in order. -/
def readSection {α : Type} (title : String) (fields : List Field)
    (build : (String → SettingError) → List (String × Value) → Except SettingError α) : Reader α
  | .table entries => (checkAll fields entries).bind fun _ => build .missingField entries
  | .array items =>
    let plural := if fields.length = 1 then " element" else " elements"
    let expected := "struct " ++ title ++ " with " ++ toString fields.length ++ plural
    build (fun _ => .invalidLength items.length expected) ((fields.map (·.name)).zip items)
  | .dateTime => build .missingField []
  | v => .error (.invalidType v.description ("struct " ++ title))

end Setting

open Setting

/-- The keys of the section `stream`, in their fixed order. -/
def StreamConfig.fields : List Field :=
  [.of "host" text, .of "port" (unsigned 16 "u16"), .of "poll_interval" millis,
    .of "idle_polls_before_ping" (unsigned 32 "u32"), .of "ping_byte" (unsigned 8 "u8"),
    .of "read_buffer_size" size, .of "connect_timeout" millis]

/-- Read the section `stream`. -/
def StreamConfig.read : Reader StreamConfig :=
  readSection "StreamConfig" fields fun missing entries => do
    let get {α : Type} (name : String) (reader : Reader α) := required missing entries name reader
    let host ← get "host" text
    let port ← get "port" (unsigned 16 "u16")
    let pollInterval ← get "poll_interval" millis
    let idlePolls ← get "idle_polls_before_ping" (unsigned 32 "u32")
    let pingByte ← get "ping_byte" (unsigned 8 "u8")
    let readBufferSize ← get "read_buffer_size" size
    let connectTimeout ← get "connect_timeout" millis
    return {
      host, port := .ofNat port, pollInterval, idlePollsBeforePing := .ofNat idlePolls
      pingByte := .ofNat pingByte, readBufferSize, connectTimeout }

/-- The key of the section `session`. -/
def SessionConfig.fields : List Field := [.of "max_cached_packets" size]

/-- Read the section `session`. -/
def SessionConfig.read : Reader SessionConfig :=
  readSection "SessionConfig" fields fun missing entries => do
    let maxCachedPackets ← required missing entries "max_cached_packets" size
    return { maxCachedPackets }

/-- The keys of the section `logging`, in their fixed order. -/
def LoggingConfig.fields : List Field :=
  [.of "app_name" text, .of "log_level" level, .of "log_to_console" truth,
    .of "json_format" truth]

/-- Read the section `logging`. -/
def LoggingConfig.read : Reader LoggingConfig :=
  readSection "LoggingConfig" fields fun missing entries => do
    let appName ← required missing entries "app_name" text
    let logLevel ← required missing entries "log_level" level
    let logToConsole ← required missing entries "log_to_console" truth
    let jsonFormat ← required missing entries "json_format" truth
    return { appName, logLevel, logToConsole, jsonFormat }

namespace Config

/-- Take one entry of the document. -/
def readEntry (c : Config) : String × Value → Except SettingError Config
  | ("stream", v) => (StreamConfig.read v).map fun stream => { c with stream }
  | ("session", v) => (SessionConfig.read v).map fun session => { c with session }
  | ("logging", v) => (LoggingConfig.read v).map fun logging => { c with logging }
  | _ => .ok c

/-- Read settings from the entries of a document. -/
def ofDocument (entries : List (String × Value)) : Except SettingError Config :=
  entries.foldlM readEntry {}

/-- Read settings from a text. -/
def ofText (text : String) : Except ConfigError Config :=
  match Toml.Document.read? text with
  | none => .error .malformed
  | some entries => (ofDocument entries).mapError .unsuitable

end Config

end TimingFeed
