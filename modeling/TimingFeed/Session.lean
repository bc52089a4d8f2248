import TimingFeed.Cache.Basic
import TimingFeed.Cipher.Tracker
import TimingFeed.Metrics
import TimingFeed.Text.Hex

/-!
# Sessions

A session takes the packets of one connection: it keeps the first ones, looks for
the key and passes each packet on, still encrypted. Once the key is known the kept
packets can be decrypted.

* `Session.handle` takes one packet and says what happened, as `SessionEvent`s;
* `Session.takeCache` hands the kept packets over;
* `Session.decryptedCache?` replays the keystream over them.

The kept packets begin where the connection, or the last handing over, began.
-/

namespace TimingFeed

/-- What happens while a session takes a packet. -/
inductive SessionEvent
  | keyRecovered (key : Word)
  | feedInClear
  | recoveryFailed (cause : RecoveryError)
  /-- The first packet that is not kept. -/
  | cacheFull (limit : Nat)
  /-- The packet is passed on. -/
  | forwarded (packet : Packet)
  deriving DecidableEq, Repr

namespace SessionEvent

/-- The log line of an event, if it has one. -/
def line? : SessionEvent → Option LogLine
  | keyRecovered key =>
    some ⟨.info, "Decryption key recovered",
      [("key", "0x" ++ String.ofList (Text.hexFixed .lower 8 key.toNat))]⟩
  | feedInClear => some ⟨.info, "Feed is not encrypted", []⟩
  | recoveryFailed cause =>
    some ⟨.warn, "Decryption key could not be recovered", [("error", cause.message)]⟩
  | cacheFull limit =>
    some ⟨.warn, "Packet cache full, later packets are not kept", [("limit", toString limit)]⟩
  | forwarded _ => none

/-- What an event counts as, if it is counted. -/
def metric? : SessionEvent → Option MetricEvent
  | keyRecovered _ | feedInClear => some .keyRecovered
  | recoveryFailed _ => some .keyRecoveryFailed
  | cacheFull _ | forwarded _ => none

/-- The packet that is passed on, if the event passes one on. -/
def forwarded? : SessionEvent → Option Packet
  | forwarded p => some p
  | _ => none

end SessionEvent

/-- The state of a session. -/
structure Session where
  tracker : Tracker := {}
  cache : PacketCache := {}
  cacheLimit : Nat := 65536
  /-- Whether a packet was not kept since the cache was last handed over. -/
  cacheFull : Bool := false
  deriving DecidableEq, Repr

namespace Session

/-- A fresh session that looks for a marker and keeps at most `limit` packets. -/
def start (marker : Marker) (limit : Nat) : Session :=
  { tracker := { marker }, cacheLimit := limit }

/-- How far the search for the key has come. -/
def status (s : Session) : KeyStatus := s.tracker.status

/-- The key, once it is known; 0 for a feed in clear. -/
def key? (s : Session) : Option Word := s.tracker.key?

/-- What a change of the status tells. -/
def statusEvents (before after : KeyStatus) : List SessionEvent :=
  if after = before then []
  else match after with
    | .recovered key => [.keyRecovered key]
    | .inClear => [.feedInClear]
    | .failed cause => [.recoveryFailed cause]
    | .start | .inProgress _ => []

/-- Keep a packet if there is room. -/
def keep (s : Session) (p : Packet) : Session × List SessionEvent :=
  if s.cache.size < s.cacheLimit then ({ s with cache := s.cache.push p }, [])
  else if s.cacheFull then (s, [])
  else ({ s with cacheFull := true }, [.cacheFull s.cacheLimit])

/-- Take the next packet of the connection. -/
def handle (s : Session) (p : Packet) : Session × List SessionEvent :=
  let tracker := s.tracker.observe p
  let (kept, events) := { s with tracker }.keep p
  (kept, statusEvents s.status tracker.status ++ events ++ [.forwarded p])

/-- Take several packets in order. -/
def handleAll : Session → List Packet → Session × List SessionEvent
  | s, [] => (s, [])
  | s, p :: ps =>
    let (t, events) := s.handle p
    let (u, more) := handleAll t ps
    (u, events ++ more)

/-- Hand the kept packets over and start to keep anew. -/
def takeCache (s : Session) : List Packet × Session :=
  (s.cache.toList, { s with cache := {}, cacheFull := false })

/-- The kept packets with their payloads decrypted, if the key is known. -/
def decryptedCache? (s : Session) : Option (List Packet) :=
  s.key?.map fun key => (Keystream.start key).replay s.cache.toList

end Session

end TimingFeed
