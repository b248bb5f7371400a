import Multiplayer.Session.Error
import Multiplayer.Session.Heartbeat
import Multiplayer.Session.Settings
import Multiplayer.Time.Timestamp
import Multiplayer.World.Identifier

/-!
# The state of a session

A session is idle, then connected, then stopped, and there is no way back.
-/

namespace Multiplayer

/-- How far a session has come. -/
inductive Phase where
  | idle
  | connected
  | stopped
deriving DecidableEq, Repr

def Phase.name : Phase → String
  | .idle => "idle"
  | .connected => "connected"
  | .stopped => "stopped"

/-- What a client knows about its session. -/
structure Session where
  phase : Phase
  /-- The number that the server has assigned. -/
  id : Option SessionId
  heartbeat : Heartbeat
  /-- How long the last clock sample was on its way. -/
  latency : Option Duration
  /-- How many writes the transport has refused. -/
  failedSends : Nat
deriving DecidableEq, Repr

namespace Session

def idle (settings : Settings) (now : Instant) : Session :=
  ⟨.idle, none, ⟨settings.heartbeat, now⟩, none, 0⟩

def isConnected (s : Session) : Bool := s.phase = .connected

def begin (s : Session) : Except SessionError Session :=
  if s.phase = .idle then .ok { s with phase := .connected } else .error .alreadyStarted

def stop (s : Session) : Session := if s.isConnected then { s with phase := .stopped } else s

/-- Learns the number of the session and the seconds between heartbeats. -/
def establish (s : Session) (id : SessionId) (keepAlive : UInt8) : Session :=
  { s with
    id := some id
    heartbeat := { s.heartbeat with interval := .ofWholeSeconds keepAlive.toNat } }

/-- Learns how long a clock sample was on its way: no time if it comes from the future. -/
def recordLatency (s : Session) (sentAt now : Timestamp) : Session :=
  { s with latency := some (now.since sentAt) }

def recordFailedSend (s : Session) : Session := { s with failedSends := s.failedSends + 1 }

def resetHeartbeat (s : Session) (now : Instant) : Session :=
  { s with heartbeat := s.heartbeat.reset now }

end Session

end Multiplayer
