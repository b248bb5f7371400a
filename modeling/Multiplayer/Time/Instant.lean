import Multiplayer.Time.Duration

/-!
# Instants of a monotonic clock

An instant counts nanoseconds from an arbitrary start.  The clock holds its seconds in a signed
64-bit number, so a sum beyond that is no instant.
-/

namespace Multiplayer

/-- A reading of a monotonic clock. -/
structure Instant where
  nanoseconds : Nat
deriving DecidableEq, Repr, Inhabited

namespace Instant

/-- The first count of nanoseconds that is no reading. -/
def limit : Nat := Nat.pow 2 63 * nanosPerSecond

/-- Whether one reading is at or before another. -/
instance : LE Instant := ⟨fun a b => a.nanoseconds ≤ b.nanoseconds⟩

instance (a b : Instant) : Decidable (a ≤ b) :=
  inferInstanceAs (Decidable (a.nanoseconds ≤ b.nanoseconds))

/-- The instant some time later, if the clock can show it. -/
def add? (t : Instant) (d : Duration) : Option Instant :=
  let sum := t.nanoseconds + d.nanoseconds
  if sum < limit then some ⟨sum⟩ else none

end Instant

end Multiplayer
