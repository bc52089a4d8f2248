import TimingFeed.Cipher.Error
import TimingFeed.Config.Error
import TimingFeed.Packet.Error

/-!
# Errors of the feed

Everything that can go wrong between the server and the application: transport,
framing, key recovery, files and settings. Each cause has one wording,
`FeedError.message`.
-/

namespace TimingFeed

/-- Why a file is not a packet cache. -/
inductive CacheError
  /-- It ends within its first line. -/
  | truncated
  /-- Its first line is another one. -/
  | unsupportedVersion
  /-- A cause that is only known by its text. -/
  | reported (text : String)
  deriving DecidableEq, Repr

/-- The wording of a cache error. -/
def CacheError.message : CacheError → String
  | truncated => "Packet cache file is truncated"
  | unsupportedVersion => "Unsupported packet cache file version"
  | reported text => text

/-- Why packets cannot be written to a file or read from one. -/
inductive RecordError
  /-- The file ends within a record. -/
  | endOfFile
  /-- A packet was received before the epoch. -/
  | timeBeforeEpoch
  /-- Seconds and carry do not fit 64 bits. -/
  | offsetOverflow
  /-- The seconds do not fit a moment. -/
  | timeOverflow
  deriving DecidableEq, Repr

/-- The wording of a record error. -/
def RecordError.message : RecordError → String
  | endOfFile => "io error: failed to fill whole buffer"
  | timeBeforeEpoch => "SystemTime must be later than UNIX_EPOCH"
  | offsetOverflow => "overflow deserializing SystemTime epoch offset"
  | timeOverflow => "overflow deserializing SystemTime"

/-- Why connecting fails before an address is tried. -/
inductive ConnectFailure
  | timedOut
  | noAddresses
  deriving DecidableEq, Repr

/-- The wording of a failure to connect. -/
def ConnectFailure.message : ConnectFailure → String
  | timedOut => "Timed out connecting to the timing server"
  | noAddresses => "Host name resolved to no addresses"

/-- Any error of the feed. -/
inductive FeedError
  /-- Reading or writing fails; the cause is known by its text. -/
  | io (cause : String)
  | resolve (host cause : String)
  | connect (host reason : String)
  | connectionClosed
  | framing (cause : FrameError)
  | keyRecovery (cause : RecoveryError)
  | cache (cause : CacheError)
  | serialization (cause : RecordError)
  | config (cause : ConfigError)
  deriving DecidableEq, Repr

/-- The wording of an error. -/
def FeedError.message : FeedError → String
  | io cause => "I/O error: " ++ cause
  | resolve host cause => "Failed to resolve host " ++ host ++ ": " ++ cause
  | connect host reason => "Failed to connect to " ++ host ++ ": " ++ reason
  | connectionClosed => "Connection closed"
  | framing cause => "Framing error: " ++ cause.message
  | keyRecovery cause => "Key recovery error: " ++ cause.message
  | cache cause => "Packet cache error: " ++ cause.message
  | serialization cause => "Serialization error: " ++ cause.message
  | config cause => "Configuration error: " ++ cause.message

end TimingFeed
