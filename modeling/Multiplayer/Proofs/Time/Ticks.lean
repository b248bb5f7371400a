import Multiplayer.Time.Timestamp

/-!
# Times on the wire

A time is carried as a signed 64-bit count of ticks.

* `toInt_toTicks`: the count is the distance from the epoch in whole ticks, with the sign of the
  side on which the time lies.
* `ofTicks_toTicks`: a time that is a count of ticks above the least 64-bit number is carried
  exactly.
* `toTicks_ofTicks_iff`: what is written for a time that was read.
-/

namespace Multiplayer.Timestamp

theorem magnitudeTicks_lt (t : Timestamp) : t.magnitudeTicks < Nat.pow 2 63 := by
  have hle : t.magnitudeTicks ≤ maxTicks := Nat.min_le_right _ _
  have hmax : maxTicks < Nat.pow 2 63 := by decide
  exact Nat.lt_of_le_of_lt hle hmax

theorem toInt_toTicks (t : Timestamp) :
    t.toTicks.toInt = if 0 ≤ t.nanoseconds then (t.magnitudeTicks : Int)
      else -(t.magnitudeTicks : Int) := by
  have hlt : t.magnitudeTicks < 2 ^ 63 := t.magnitudeTicks_lt
  unfold toTicks
  split
  · exact Int64.toInt_ofNat_of_lt hlt
  · apply Int64.toInt_ofInt_of_le
    · omega
    · omega

/-- The time is a count of ticks that 64 bits with a sign can hold, and not the least of these,
which has no counterpart on the other side of the epoch. -/
def OnTick (t : Timestamp) : Prop :=
  ∃ ticks : Int, t.nanoseconds = ticks * nanosPerTick ∧
    Int64.minValue.toInt < ticks ∧ ticks ≤ Int64.maxValue.toInt

theorem ofTicks_toTicks {t : Timestamp} (h : t.OnTick) : ofTicks t.toTicks = t := by
  obtain ⟨ticks, hticks, hlow, hhigh⟩ := h
  obtain ⟨nanoseconds⟩ := t
  have hticks : nanoseconds = ticks * 100 := hticks
  rw [Int64.toInt_minValue] at hlow
  rw [Int64.toInt_maxValue] at hhigh
  have hmax : maxTicks = 2 ^ 63 - 1 := by decide
  have hmagnitude : magnitudeTicks ⟨nanoseconds⟩ = ticks.natAbs := by
    change min (nanoseconds.natAbs / 100) maxTicks = ticks.natAbs
    rw [hmax, hticks]
    omega
  have htoInt : (toTicks ⟨nanoseconds⟩).toInt = ticks := by
    rw [toInt_toTicks, hmagnitude]
    change (if 0 ≤ nanoseconds then _ else _) = ticks
    split
    · omega
    · omega
  rw [ofTicks, htoInt, hticks]
  rfl

/-- The least 64-bit number is never written. -/
theorem toTicks_ne_minValue (t : Timestamp) : t.toTicks ≠ Int64.minValue := by
  intro h
  have htoInt := t.toInt_toTicks
  have hlt : t.magnitudeTicks < 2 ^ 63 := t.magnitudeTicks_lt
  rw [h, Int64.toInt_minValue] at htoInt
  split at htoInt
  · omega
  · omega

theorem ofTicks_injective {ticks ticks' : Int64} (h : ofTicks ticks = ofTicks ticks') :
    ticks = ticks' := by
  have hnanos : ticks.toInt * 100 = ticks'.toInt * 100 := congrArg nanoseconds h
  exact Int64.toInt_inj.1 (by omega)

/-- What is written for a time that was read is what it was read from, except for the least 64-bit
number. -/
theorem toTicks_ofTicks_iff {ticks : Int64} :
    (ofTicks ticks).toTicks = ticks ↔ ticks ≠ Int64.minValue := by
  constructor
  · rintro h rfl
    exact toTicks_ne_minValue _ h
  · intro hne
    have hlow : Int64.minValue.toInt ≤ ticks.toInt := Int64.minValue_le_toInt ticks
    have hdistinct : Int64.minValue.toInt ≠ ticks.toInt := fun h => hne (Int64.toInt_inj.1 h).symm
    have honTick : (ofTicks ticks).OnTick :=
      ⟨ticks.toInt, rfl, Int.lt_iff_le_and_ne.2 ⟨hlow, hdistinct⟩, Int64.toInt_le ticks⟩
    exact ofTicks_injective (ofTicks_toTicks honTick)

end Multiplayer.Timestamp
