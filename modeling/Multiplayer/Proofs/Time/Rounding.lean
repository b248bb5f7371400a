import Multiplayer.Proofs.Time.Ticks

/-!
# Times between two ticks

A time is written as a count of ticks: its distance from the epoch is cut to whole ticks, and the
sign says on which side it lies.  A time that is too far away for 64 bits is written as the
greatest count, with its sign.

* `Duration.ticks`: the count as it is computed, from the seconds and from what is over, where no
  step goes beyond the greatest count.
* `magnitudeTicks_eq_ticks`: the steps come to the same as cutting first and limiting then.
* `toTicks_le_toTicks`: a later time has no smaller count, also across the epoch and where counts
  are limited.
* `toTicks_cuts` is the result.
-/

namespace Multiplayer

def ticksPerSecond : Nat := nanosPerSecond / Timestamp.nanosPerTick

/-- The ticks in a span.  Its seconds and what is over are converted each by itself, and every step
stops at the greatest count. -/
def Duration.ticks (d : Duration) : Nat :=
  let seconds := min d.wholeSeconds Timestamp.maxTicks
  let whole := min (seconds * ticksPerSecond) Timestamp.maxTicks
  min (whole + d.subsecNanos / Timestamp.nanosPerTick) Timestamp.maxTicks

namespace Timestamp

/-- The span between the epoch and the time, on whichever side it lies. -/
def fromEpoch (t : Timestamp) : Duration := ⟨t.nanoseconds.natAbs⟩

-- A step that is limited leaves nothing to the next but to stay there.
theorem magnitudeTicks_eq_ticks (t : Timestamp) : t.magnitudeTicks = t.fromEpoch.ticks := by
  show min (t.nanoseconds.natAbs / 100) maxTicks =
    min (min (min (t.nanoseconds.natAbs / 1000000000) maxTicks * 10000000) maxTicks +
      t.nanoseconds.natAbs % 1000000000 / 100) maxTicks
  omega

theorem magnitudeTicks_eq (t : Timestamp) :
    t.magnitudeTicks = min (t.nanoseconds.natAbs / 100) maxTicks := rfl

theorem toTicks_le_toTicks {t t' : Timestamp} (h : t.nanoseconds ≤ t'.nanoseconds) :
    t.toTicks ≤ t'.toTicks := by
  rw [Int64.le_iff_toInt_le, toInt_toTicks, toInt_toTicks, magnitudeTicks_eq, magnitudeTicks_eq]
  split
  · split
    · omega
    · omega
  · split
    · omega
    · omega

theorem tdiv_nanosPerTick (t : Timestamp) :
    t.nanoseconds.tdiv nanosPerTick =
      if 0 ≤ t.nanoseconds then ((t.nanoseconds.natAbs / 100 : Nat) : Int)
      else -((t.nanoseconds.natAbs / 100 : Nat) : Int) := by
  show t.nanoseconds.tdiv 100 = _
  split
  · rename_i hafter
    rw [Int.tdiv_eq_ediv_of_nonneg hafter]
    omega
  · have hbefore : 0 ≤ -t.nanoseconds := by omega
    have hneg : t.nanoseconds.tdiv 100 = -((-t.nanoseconds).tdiv 100) := by
      rw [Int.neg_tdiv, Int.neg_neg]
    rw [hneg, Int.tdiv_eq_ediv_of_nonneg hbefore]
    omega

/-- A count that 64 bits can hold is not limited. -/
theorem toInt_toTicks_of_lt {t : Timestamp}
    (h : t.nanoseconds.natAbs < Nat.pow 2 63 * nanosPerTick) :
    t.toTicks.toInt = t.nanoseconds.tdiv nanosPerTick := by
  have hlimit : t.magnitudeTicks = t.nanoseconds.natAbs / 100 := by
    have hroom : t.nanoseconds.natAbs < 2 ^ 63 * 100 := h
    have hlast : maxTicks = 2 ^ 63 - 1 := rfl
    rw [magnitudeTicks_eq, hlast]
    omega
  rw [toInt_toTicks, hlimit, tdiv_nanosPerTick]

theorem nanoseconds_ofTicks_toTicks {t : Timestamp}
    (h : t.nanoseconds.natAbs < Nat.pow 2 63 * nanosPerTick) :
    (ofTicks t.toTicks).nanoseconds = t.nanoseconds.tdiv nanosPerTick * nanosPerTick := by
  rw [← toInt_toTicks_of_lt h]
  rfl

/-- **A time is cut toward the epoch.**  A later time has no smaller count.  At less than `2 ^ 63`
ticks from the epoch, the count is that distance cut to whole ticks, so that the time it denotes is
less than a tick away and no further from the epoch. -/
theorem toTicks_cuts (t : Timestamp) :
    t.toTicks.toInt =
      (if 0 ≤ t.nanoseconds then (t.fromEpoch.ticks : Int) else -(t.fromEpoch.ticks : Int)) ∧
    (∀ later : Timestamp, t.nanoseconds ≤ later.nanoseconds → t.toTicks ≤ later.toTicks) ∧
    (t.nanoseconds.natAbs < Nat.pow 2 63 * nanosPerTick →
      t.toTicks.toInt = t.nanoseconds.tdiv nanosPerTick ∧
      ((ofTicks t.toTicks).nanoseconds - t.nanoseconds).natAbs < nanosPerTick ∧
      (ofTicks t.toTicks).nanoseconds.natAbs ≤ t.nanoseconds.natAbs) := by
  refine ⟨?_, fun later hlater => toTicks_le_toTicks hlater, fun hnear => ?_⟩
  · rw [toInt_toTicks, magnitudeTicks_eq_ticks]
  · have hback := nanoseconds_ofTicks_toTicks hnear
    rw [tdiv_nanosPerTick] at hback
    have hback : (ofTicks t.toTicks).nanoseconds =
        (if 0 ≤ t.nanoseconds then ((t.nanoseconds.natAbs / 100 : Nat) : Int)
          else -((t.nanoseconds.natAbs / 100 : Nat) : Int)) * 100 := hback
    refine ⟨toInt_toTicks_of_lt hnear, ?_, ?_⟩
    · show _ < 100
      rw [hback]
      split
      · omega
      · omega
    · rw [hback]
      split
      · omega
      · omega

/-- A time one and a half ticks before the epoch, and one less than a tick after it. -/
theorem toTicks_cuts_beforeEpoch :
    let t : Timestamp := ⟨-150⟩
    let later : Timestamp := ⟨99⟩
    t.nanoseconds ≤ later.nanoseconds ∧ t.toTicks ≤ later.toTicks ∧
      t.nanoseconds.natAbs < Nat.pow 2 63 * nanosPerTick ∧ t.toTicks.toInt = -1 ∧
      ((ofTicks t.toTicks).nanoseconds - t.nanoseconds).natAbs < nanosPerTick ∧
      (ofTicks t.toTicks).nanoseconds.natAbs ≤ t.nanoseconds.natAbs := by
  intro t later
  obtain ⟨-, hmonotone, hcut⟩ := toTicks_cuts t
  have hlater : t.nanoseconds ≤ later.nanoseconds := by decide
  have hnear : t.nanoseconds.natAbs < Nat.pow 2 63 * nanosPerTick := by decide
  obtain ⟨hticks, hback⟩ := hcut hnear
  exact ⟨hlater, hmonotone later hlater, hnear, hticks, hback⟩

end Timestamp

end Multiplayer
