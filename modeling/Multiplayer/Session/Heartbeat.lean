import Multiplayer.Time.Instant

/-!
# Heartbeats

A heartbeat is due when the interval since the last one is over.  The time is always given, and
an interval that leads beyond what the clock can show is never over.
-/

namespace Multiplayer

/-- How often heartbeats are sent, and when the interval began. -/
structure Heartbeat where
  interval : Duration
  last : Instant
deriving DecidableEq, Repr

namespace Heartbeat

def isDue (h : Heartbeat) (now : Instant) : Bool :=
  match h.last.add? h.interval with
  | some next => next ≤ now
  | none => false

def reset (h : Heartbeat) (now : Instant) : Heartbeat := { h with last := now }

def poll (h : Heartbeat) (now : Instant) : Bool × Heartbeat :=
  if h.isDue now then (true, h.reset now) else (false, h)

end Heartbeat

end Multiplayer
