import TimingFeed.Config.Basic
import TimingFeed.Packet.Header
import TimingFeed.Text.Blank

/-!
# Checking settings

`Config.problems` lists everything that is wrong with settings, in a fixed order;
each kind of problem has one wording, `ConfigProblem.message`.
-/

namespace TimingFeed

/-- Something wrong with a setting. -/
inductive ConfigProblem
  | emptyHost
  | zeroPort
  | pollIntervalTooShort
  | pollIntervalTooLong
  | zeroIdlePolls
  | readBufferTooSmall (size : Nat)
  | connectTimeoutTooShort
  | emptyAppName
  | appNameTooLong (size : Nat)
  deriving DecidableEq, Repr

/-- The number of bytes in the longest frame. -/
def maxFrameLength : Nat := headerLength + maxPayload

/-- The largest number of bytes in an application name. -/
def maxAppName : Nat := 64

/-- The wording of a problem. -/
def ConfigProblem.message : ConfigProblem → String
  | emptyHost => "Stream host cannot be empty"
  | zeroPort => "Stream port must be greater than 0"
  | pollIntervalTooShort => "Poll interval too short (minimum: 10ms)"
  | pollIntervalTooLong => "Poll interval too long (maximum: 10s)"
  | zeroIdlePolls => "Idle polls before ping must be greater than 0"
  | readBufferTooSmall size => s!"Read buffer too small: {size} bytes (minimum: {maxFrameLength})"
  | connectTimeoutTooShort => "Connect timeout too short (minimum: 100ms)"
  | emptyAppName => "Application name cannot be empty"
  | appNameTooLong size => s!"Application name too long: {size} characters (maximum: {maxAppName})"

/-- A problem, if a condition holds. -/
def problemIf (p : Prop) [Decidable p] (problem : ConfigProblem) : List ConfigProblem :=
  if p then [problem] else []

/-- What is wrong with the length of a poll. -/
def pollIntervalProblems (d : Span) : List ConfigProblem :=
  if d.millis < 10 then [.pollIntervalTooShort]
  else problemIf (10 < d.secs ∨ d.secs = 10 ∧ 0 < d.nanos) .pollIntervalTooLong

/-- What is wrong with the settings of the connection. -/
def StreamConfig.problems (c : StreamConfig) : List ConfigProblem :=
  problemIf (Text.trim c.host.toList = []) .emptyHost ++
    problemIf (c.port = 0) .zeroPort ++
    pollIntervalProblems c.pollInterval ++
    problemIf (c.idlePollsBeforePing = 0) .zeroIdlePolls ++
    problemIf (c.readBufferSize.toNat < maxFrameLength)
      (.readBufferTooSmall c.readBufferSize.toNat) ++
    problemIf (c.connectTimeout.millis < 100) .connectTimeoutTooShort

/-- What is wrong with the settings of the log. The length of a name counts bytes. -/
def LoggingConfig.problems (c : LoggingConfig) : List ConfigProblem :=
  if c.appName = "" then [.emptyAppName]
  else problemIf (maxAppName < c.appName.utf8ByteSize) (.appNameTooLong c.appName.utf8ByteSize)

/-- What is wrong with settings. -/
def Config.problems (c : Config) : List ConfigProblem :=
  c.stream.problems ++ c.logging.problems

end TimingFeed
