import TimingFeed.Config.Reading
import TimingFeed.Toml.Printer

/-!
# Settings as a document

* `Config.toText` writes settings; durations are written in whole milliseconds, cut
  to 64 bits, and integers above `2 ^ 63 - 1` have no written form.
* `Config.save` and `Config.load` go through the contents of a file.
-/

namespace TimingFeed

/-- The largest integer that a document can hold. -/
def maxInteger : Nat := 0x7FFFFFFFFFFFFFFF

/-- A number as a document holds it. -/
def writeNumber (n : Nat) : Except ConfigError Toml.Scalar :=
  if n ≤ maxInteger then .ok (.integer n) else .error .unwritable

/-- A duration as a document holds it: its milliseconds, cut to 64 bits. -/
def writeSpan (d : Span) : Except ConfigError Toml.Scalar := writeNumber (d.millis % 0x10000000000000000)

/-- The section `stream`. -/
def StreamConfig.toSection (c : StreamConfig) : Except ConfigError Toml.Section := do
  let pollInterval ← writeSpan c.pollInterval
  let readBufferSize ← writeNumber c.readBufferSize.toNat
  let connectTimeout ← writeSpan c.connectTimeout
  return ⟨"stream",
    [("host", .string c.host),
      ("port", .integer c.port.toNat),
      ("poll_interval", pollInterval),
      ("idle_polls_before_ping", .integer c.idlePollsBeforePing.toNat),
      ("ping_byte", .integer c.pingByte.toNat),
      ("read_buffer_size", readBufferSize),
      ("connect_timeout", connectTimeout)]⟩

/-- The section `session`. -/
def SessionConfig.toSection (c : SessionConfig) : Except ConfigError Toml.Section := do
  let maxCachedPackets ← writeNumber c.maxCachedPackets.toNat
  return ⟨"session", [("max_cached_packets", maxCachedPackets)]⟩

/-- The section `logging`. -/
def LoggingConfig.toSection (c : LoggingConfig) : Toml.Section :=
  ⟨"logging",
    [("app_name", .string c.appName),
      ("log_level", .string c.logLevel.lowerName),
      ("log_to_console", .boolean c.logToConsole),
      ("json_format", .boolean c.jsonFormat)]⟩

namespace Config

/-- All sections, in their fixed order. -/
def toSections (c : Config) : Except ConfigError (List Toml.Section) := do
  let stream ← c.stream.toSection
  let session ← c.session.toSection
  return [stream, session, c.logging.toSection]

/-- Write settings. -/
def toText (c : Config) : Except ConfigError String :=
  c.toSections.map fun sections => String.ofList (Toml.renderSections sections)

/-- Save settings in a directory that may be missing; gives the contents of the file. -/
def save (c : Config) (directoryExists : Bool) : Except ConfigError String :=
  c.toText.bind fun text =>
    if directoryExists then .ok text else .error (.writeFailed .notFound)

/-- Load settings from the contents of a file, if there is one. -/
def load (contents : Option ByteArray) : Except ConfigError Config :=
  match contents with
  | none => .error (.openFailed .notFound)
  | some bytes =>
    match String.fromUTF8? bytes with
    | none => .error (.readFailed .notText)
    | some text => ofText text

/-- An example of a document: the default settings. -/
def exampleText : String :=
  match toText {} with
  | .ok text => text
  | .error _ => "# Failed to generate example config"

/-- Settings are accepted when they have no problem. -/
def accept (c : Config) : Except ConfigError Unit :=
  if c.problems = [] then .ok () else .error (.rejected c.problems)

end Config

end TimingFeed
