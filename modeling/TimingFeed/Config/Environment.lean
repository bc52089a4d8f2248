import TimingFeed.Config.Error
import TimingFeed.Text.Integer

/-!
# Settings from the environment

Five variables override the defaults. A variable that is not set, or whose value is
not text, changes nothing; one that is set to anything but a number that fits is
reported, the first such variable in a fixed order.

`Config.ofEnvironment` reads them.
-/

namespace TimingFeed

/-- What the environment holds: the bytes of each variable that is set. -/
abbrev Environment := String → Option ByteArray

namespace Environment

/-- The text of a variable, if it is set to text. -/
def text (env : Environment) (name : String) : Option String :=
  (env name).bind String.fromUTF8?

/-- Read a variable as a number of at most `max`, white space around it aside. -/
def number (env : Environment) (name : String) (max : Nat) : Except ConfigError (Option Nat) :=
  match env.text name with
  | none => .ok none
  | some raw =>
    match Text.readUnsigned max (Text.trim raw.toList) with
    | some n => .ok (some n)
    | none => .error (.invalidVariable name raw)

end Environment

/-- The variable for the host name. -/
def hostVariable : String := "LIVE_TIMING_HOST"

/-- The variable for the port. -/
def portVariable : String := "LIVE_TIMING_PORT"

/-- The variable for the length of a poll in milliseconds. -/
def pollIntervalVariable : String := "LIVE_TIMING_POLL_INTERVAL_MS"

/-- The variable for the number of empty polls before a keep-alive byte. -/
def idlePollsVariable : String := "LIVE_TIMING_IDLE_POLLS"

/-- The variable for the number of packets that a session keeps. -/
def cacheLimitVariable : String := "LIVE_TIMING_MAX_CACHED_PACKETS"

/-- The defaults with the overrides of an environment. -/
def Config.ofEnvironment (env : Environment) : Except ConfigError Config := do
  let port ← env.number portVariable 0xFFFF
  let pollInterval ← env.number pollIntervalVariable 0xFFFFFFFFFFFFFFFF
  let idlePolls ← env.number idlePollsVariable 0xFFFFFFFF
  let cacheLimit ← env.number cacheLimitVariable 0xFFFFFFFFFFFFFFFF
  let stream : StreamConfig := {}
  let session : SessionConfig := {}
  return {
    stream := { stream with
      host := (env.text hostVariable).getD stream.host
      port := (port.map UInt16.ofNat).getD stream.port
      pollInterval := (pollInterval.map Span.ofMillis).getD stream.pollInterval
      idlePollsBeforePing := (idlePolls.map UInt32.ofNat).getD stream.idlePollsBeforePing }
    session := {
      maxCachedPackets := (cacheLimit.map UInt64.ofNat).getD session.maxCachedPackets } }

end TimingFeed
