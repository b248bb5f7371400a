import Multiplayer.Decimal.Shortest

/-!
# Durations

A duration is a count of nanoseconds.  On the wire it is a number of seconds in binary64, so
writing one rounds to the nearest such number and reading one rounds to the nearest nanosecond.

* `toSeconds` gives the 64 bits of the number of seconds.
* `ofSeconds` refuses negative numbers, numbers of `2 ^ 64` seconds and more, and non-numbers.
-/

namespace Multiplayer

def nanosPerSecond : Nat := 1000000000

/-- A span of time that is not negative. -/
structure Duration where
  nanoseconds : Nat
deriving DecidableEq, Repr, Inhabited

namespace Duration

/-- The duration of some seconds and some nanoseconds more. -/
def ofParts (seconds nanos : Nat) : Duration := ⟨seconds * nanosPerSecond + nanos⟩

def ofWholeSeconds (seconds : Nat) : Duration := ofParts seconds 0

def zero : Duration := ⟨0⟩

def wholeSeconds (d : Duration) : Nat := d.nanoseconds / nanosPerSecond

def subsecNanos (d : Duration) : Nat := d.nanoseconds % nanosPerSecond

theorem ofParts_wholeSeconds_subsecNanos (d : Duration) :
    ofParts d.wholeSeconds d.subsecNanos = d := by
  simp [ofParts, wholeSeconds, subsecNanos, Nat.div_add_mod']

/-! ## Seconds in binary64 -/

/-- The bits of the number of seconds: the whole seconds and the fraction are rounded each by
itself and then added. -/
def toSeconds (d : Duration) : UInt64 :=
  (d.wholeSeconds.toUInt64.toFloat + d.subsecNanos.toUInt64.toFloat / 1000000000.0).toBits

/-- Why a number of seconds is not a duration. -/
inductive Fault where
  | negative
  | tooLarge
deriving DecidableEq, Repr

def Fault.message : Fault → String
  | .negative => "cannot convert float seconds to Duration: value is negative"
  | .tooLarge => "cannot convert float seconds to Duration: value is either too big or NaN"

/-- A quotient rounded to the nearest integer, a half to the even neighbour. -/
def roundDiv (n d : Nat) : Nat :=
  let q := n / d
  let twice := 2 * (n % d)
  if d < twice || (twice = d && q % 2 = 1) then q + 1 else q

/-- The nanoseconds in a magnitude of seconds. -/
def nanosOf (x : Decimal.Magnitude) : Nat :=
  roundDiv (x.mantissa * Nat.pow 2 x.exponent.toNat * nanosPerSecond)
    (Nat.pow 2 (-x.exponent).toNat)

/-- The duration of a number of seconds, to the nearest nanosecond. -/
def ofSeconds (bits : UInt64) : Except Fault Duration :=
  match Decimal.Binary.ofBits bits with
  | .nan | .infinite false => .error .tooLarge
  | .infinite true | .finite true _ => .error .negative
  | .zero _ => .ok zero
  | .finite false x =>
    let nanos := nanosOf x
    if nanos < Nat.pow 2 64 * nanosPerSecond then .ok ⟨nanos⟩ else .error .tooLarge

end Duration

end Multiplayer
