import TimingFeed.Log.Line

/-!
# Counters

What the feed counts: connections, traffic, framing and key recovery outcomes.
Each counter is a 64-bit word and wraps; the number of open connections never
goes below zero.

* `Metrics.record` counts one event;
* `Metrics.lineAfter` is the log line of a snapshot, and `Metrics.line` is that line
  without the uptime.
-/

namespace TimingFeed

/-- Something that is counted. -/
inductive MetricEvent
  | connectionEstablished
  | connectionClosed
  | connectionError
  /-- A read that gave this many bytes. -/
  | bytesRead (count : UInt64)
  | idlePoll
  | pingSent
  | packetFramed
  | framingError
  | keyRecovered
  | keyRecoveryFailed
  deriving DecidableEq, Repr

/-- The counters. -/
structure Metrics where
  connectionsTotal : UInt64 := 0
  connectionsActive : UInt64 := 0
  connectionErrors : UInt64 := 0
  bytesReceived : UInt64 := 0
  readsTotal : UInt64 := 0
  idlePolls : UInt64 := 0
  pingsSent : UInt64 := 0
  packetsFramed : UInt64 := 0
  framingErrors : UInt64 := 0
  keysRecovered : UInt64 := 0
  keyRecoveryFailures : UInt64 := 0
  deriving DecidableEq, Repr

namespace Metrics

/-- Count one event. -/
def record (m : Metrics) : MetricEvent → Metrics
  | .connectionEstablished =>
    { m with
      connectionsTotal := m.connectionsTotal + 1
      connectionsActive := m.connectionsActive + 1 }
  | .connectionClosed =>
    if m.connectionsActive = 0 then m
    else { m with connectionsActive := m.connectionsActive - 1 }
  | .connectionError => { m with connectionErrors := m.connectionErrors + 1 }
  | .bytesRead count =>
    { m with readsTotal := m.readsTotal + 1, bytesReceived := m.bytesReceived + count }
  | .idlePoll => { m with idlePolls := m.idlePolls + 1 }
  | .pingSent => { m with pingsSent := m.pingsSent + 1 }
  | .packetFramed => { m with packetsFramed := m.packetsFramed + 1 }
  | .framingError => { m with framingErrors := m.framingErrors + 1 }
  | .keyRecovered => { m with keysRecovered := m.keysRecovered + 1 }
  | .keyRecoveryFailed => { m with keyRecoveryFailures := m.keyRecoveryFailures + 1 }

/-- Count several events. -/
def recordAll (m : Metrics) (events : List MetricEvent) : Metrics := events.foldl record m

@[simp] theorem recordAll_nil (m : Metrics) : m.recordAll [] = m := rfl

@[simp] theorem recordAll_cons (m : Metrics) (e : MetricEvent) (es : List MetricEvent) :
    m.recordAll (e :: es) = (m.record e).recordAll es := rfl

theorem recordAll_append (m : Metrics) (es fs : List MetricEvent) :
    m.recordAll (es ++ fs) = (m.recordAll es).recordAll fs := List.foldl_append

/-- The counters with their names, in the order in which they are reported. -/
def entries (m : Metrics) : List (String × UInt64) :=
  [("connections_total", m.connectionsTotal),
    ("connections_active", m.connectionsActive),
    ("connection_errors", m.connectionErrors),
    ("bytes_received", m.bytesReceived),
    ("reads_total", m.readsTotal),
    ("idle_polls", m.idlePolls),
    ("pings_sent", m.pingsSent),
    ("packets_framed", m.packetsFramed),
    ("framing_errors", m.framingErrors),
    ("keys_recovered", m.keysRecovered),
    ("key_recovery_failures", m.keyRecoveryFailures)]

/-- The counters on the log line of a snapshot. No counter tells the uptime. -/
def line (m : Metrics) : LogLine :=
  ⟨.info, "Timing feed metrics snapshot", m.entries.map fun e => (e.1, toString e.2.toNat)⟩

/-- The log line of a snapshot that is taken after so many seconds. -/
def lineAfter (m : Metrics) (uptime : UInt64) : LogLine :=
  { m.line with fields := m.line.fields ++ [("uptime_seconds", toString uptime.toNat)] }

end Metrics

end TimingFeed
