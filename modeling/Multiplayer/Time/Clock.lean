import Multiplayer.Time.Instant
import Multiplayer.Time.Timestamp

/-!
# Clock readings

Nothing in this library reads a clock.  An operation that depends on the time is given the
readings of both clocks.
-/

namespace Multiplayer

/-- The readings of both clocks that one operation is given. -/
structure Clock where
  monotonic : Instant
  wall : Timestamp
deriving DecidableEq, Repr, Inhabited

end Multiplayer
