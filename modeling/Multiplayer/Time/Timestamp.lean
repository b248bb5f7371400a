import Multiplayer.Time.Duration

/-!
# Wall-clock times

A timestamp counts nanoseconds from the Unix epoch, before it negative.  On the wire a time is a
signed 64-bit count of ticks of 100 nanoseconds.

* `toTicks` cuts a time toward the epoch and saturates symmetrically, so the least 64-bit number
  is never written.
* `ofTicks` is exact.
-/

namespace Multiplayer

/-- A moment of wall-clock time, in nanoseconds after the Unix epoch. -/
structure Timestamp where
  nanoseconds : Int
deriving DecidableEq, Repr, Inhabited

namespace Timestamp

def nanosPerTick : Nat := 100

def maxTicks : Nat := Nat.pow 2 63 - 1

/-- The moment some seconds after the epoch and some nanoseconds after that. -/
def ofParts (seconds : Int) (nanos : Nat) : Timestamp := ⟨seconds * nanosPerSecond + nanos⟩

/-- The whole seconds since the epoch, rounded toward the past. -/
def wholeSeconds (t : Timestamp) : Int := t.nanoseconds.fdiv nanosPerSecond

def subsecNanos (t : Timestamp) : Nat := (t.nanoseconds.fmod nanosPerSecond).toNat

/-- The distance from the epoch in whole ticks, at most `maxTicks`. -/
def magnitudeTicks (t : Timestamp) : Nat := min (t.nanoseconds.natAbs / nanosPerTick) maxTicks

/-- The count of ticks that is written for a time. -/
def toTicks (t : Timestamp) : Int64 :=
  if 0 ≤ t.nanoseconds then Int64.ofNat t.magnitudeTicks
  else Int64.ofInt (-(t.magnitudeTicks : Int))

/-- The time that a count of ticks denotes. -/
def ofTicks (ticks : Int64) : Timestamp := ⟨ticks.toInt * nanosPerTick⟩

/-- The time that passed since an earlier moment; none if the moment is not earlier. -/
def since (now earlier : Timestamp) : Duration :=
  ⟨(now.nanoseconds - earlier.nanoseconds).toNat⟩

end Timestamp

end Multiplayer
