import TimingFeed.Instant
import TimingFeed.Log.Level

/-!
# Settings

The settings of a client: how it reaches the timing server and polls it, how many
packets a session keeps, and how it writes its log.

The defaults poll every 100 ms and send a keep-alive byte after ten empty polls,
which is about one second of silence.
-/

namespace TimingFeed

/-- How the connection is opened, polled and kept alive. -/
structure StreamConfig where
  host : String := "live-timing.formula1.com"
  port : UInt16 := 4321
  /-- The longest wait for data in one poll. -/
  pollInterval : Span := .ofMillis 100
  /-- How many empty polls pass before a keep-alive byte is sent. -/
  idlePollsBeforePing : UInt32 := 10
  /-- The keep-alive byte. -/
  pingByte : UInt8 := 0x10
  readBufferSize : UInt64 := 512
  connectTimeout : Span := .ofMillis 10000
  deriving DecidableEq, Repr

/-- What a session keeps. -/
structure SessionConfig where
  /-- How many packets are kept for decryption; 0 keeps none. -/
  maxCachedPackets : UInt64 := 65536
  deriving DecidableEq, Repr

/-- How the log is written. -/
structure LoggingConfig where
  appName : String := "live-timing"
  logLevel : LogLevel := .info
  logToConsole : Bool := true
  jsonFormat : Bool := false
  deriving DecidableEq, Repr

/-- All settings. -/
structure Config where
  stream : StreamConfig := {}
  session : SessionConfig := {}
  logging : LoggingConfig := {}
  deriving DecidableEq, Repr

/-- Host and port as the resolver takes them. -/
def StreamConfig.address (c : StreamConfig) : String := c.host ++ ":" ++ toString c.port.toNat

end TimingFeed
