import Multiplayer.Json.Document
import Multiplayer.Session.Error
import Multiplayer.Time.Duration

/-!
# Settings of a client

Every setting has a default, so an empty document is a document of settings.  Settings that could
not work are mended rather than refused.
-/

namespace Multiplayer

/-- The deployment of the server that is used. -/
inductive Environment where
  | production
  | playground
deriving DecidableEq, Repr, Inhabited

def Environment.name : Environment → String
  | .production => "production"
  | .playground => "playground"

instance : Json.Document Environment where
  toJson environment := Json.Value.ofText environment.name
  ofJson? := Json.Value.case?
    ([.production, .playground].map fun environment : Environment => (environment.name, environment))

/-- The part of the world that is served. -/
inductive Region where
  | jp
deriving DecidableEq, Repr, Inhabited

def Region.name : Region → String
  | .jp => "jp"

instance : Json.Document Region where
  toJson region := Json.Value.ofText region.name
  ofJson? := Json.Value.case? ([.jp].map fun region : Region => (region.name, region))

structure Settings where
  /-- Seconds between heartbeats until the server says otherwise. -/
  heartbeatSeconds : UInt64 := 1
  /-- The host to connect to instead of the one that the directory names. -/
  hostOverride : Option String := none
  environment : Environment := .production
  region : Region := .jp
  /-- The most bytes to ask the transport for at once. -/
  receiveChunk : UInt64 := 1024
deriving DecidableEq, Repr, Inhabited

namespace Settings

/-- A number as it is, but one instead of zero. -/
def orOne (n : UInt64) : UInt64 := if n = 0 then 1 else n

theorem orOne_pos (n : UInt64) : 0 < orOne n := by
  unfold orOne
  split
  · decide
  · rename_i h
    exact UInt64.pos_iff_ne_zero.2 h

/-- Mends settings that could not work: no heartbeat without a pause, and no reading of nothing. -/
def validated (settings : Settings) : Settings :=
  { settings with
    heartbeatSeconds := orOne settings.heartbeatSeconds
    receiveChunk := orOne settings.receiveChunk }

/-- The time between heartbeats until the server says otherwise. -/
def heartbeat (settings : Settings) : Duration := .ofWholeSeconds settings.heartbeatSeconds.toNat

instance : Json.Document Settings where
  toJson s :=
    Json.Value.ofMembers
      [("default_heartbeat_secs", Json.Document.toJson s.heartbeatSeconds),
        ("host_override", Json.Document.toJson s.hostOverride),
        ("environment", Json.Document.toJson s.environment),
        ("region", Json.Document.toJson s.region),
        ("receive_chunk", Json.Document.toJson s.receiveChunk)]
  ofJson? value := do
    let [heartbeat, host, environment, region, chunk] ← value.record?
      ["default_heartbeat_secs", "host_override", "environment", "region", "receive_chunk"] | none
    let absent : Settings := {}
    return {
      heartbeatSeconds := ← Json.optional absent.heartbeatSeconds heartbeat
      hostOverride := ← Json.optional absent.hostOverride host
      environment := ← Json.optional absent.environment environment
      region := ← Json.optional absent.region region
      receiveChunk := ← Json.optional absent.receiveChunk chunk }

/-- Reads a document of settings and mends them. -/
def parse (json : String) : Except SessionError Settings :=
  match Json.read? json with
  | some settings => .ok (validated settings)
  | none => .error .invalidSettings

end Settings

end Multiplayer
