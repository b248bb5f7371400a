import Multiplayer.Proofs.Time.Rounding

/-!
# Times from a count of ticks

A clock holds its seconds in 64 bits with a sign and nanoseconds behind them.  The time of a count
of ticks is the epoch and a span after it, or the epoch less a span, and either is computed only if
a clock can hold it.  It always can: no count of ticks is near the ends of that range.

* `Holds`: the times that a clock can hold; `holds_iff` names them by seconds and nanoseconds.
* `ofTicks?`: the time of a count of ticks, if a clock can hold it.
* `ofTicks?_eq`: a clock can hold all of them.
* `toTicks_ofTicks`: what is written for the time of a count of ticks.
-/

namespace Multiplayer.Timestamp

/-- A clock can hold the time. -/
def Holds (t : Timestamp) : Prop :=
  Int64.minValue.toInt ≤ t.wholeSeconds ∧ t.wholeSeconds ≤ Int64.maxValue.toInt

instance (t : Timestamp) : Decidable t.Holds :=
  inferInstanceAs (Decidable (Int64.minValue.toInt ≤ t.wholeSeconds ∧
    t.wholeSeconds ≤ Int64.maxValue.toInt))

theorem wholeSeconds_eq (t : Timestamp) : t.wholeSeconds = t.nanoseconds / 1000000000 :=
  Int.fdiv_eq_ediv_of_nonneg t.nanoseconds (by decide : (0 : Int) ≤ 1000000000)

/-- The times that a clock can hold are those of some seconds with a sign and less than a second
behind them. -/
theorem holds_iff {t : Timestamp} :
    t.Holds ↔ ∃ (seconds : Int64) (nanos : Nat), nanos < nanosPerSecond ∧
      t = ofParts seconds.toInt nanos := by
  obtain ⟨nanoseconds⟩ := t
  rw [Holds, wholeSeconds_eq]
  constructor
  · rintro ⟨hlow, hhigh⟩
    refine ⟨Int64.ofInt (nanoseconds / 1000000000), (nanoseconds % 1000000000).toNat, ?_, ?_⟩
    · show _ < 1000000000
      omega
    · rw [Int64.toInt_ofInt_of_le hlow (Int.lt_add_one_of_le hhigh)]
      show (⟨nanoseconds⟩ : Timestamp) = ⟨nanoseconds / 1000000000 * 1000000000 + _⟩
      congr 1
      omega
  · rintro ⟨seconds, nanos, hnanos, hparts⟩
    have hnanos : nanos < 1000000000 := hnanos
    have hsum : nanoseconds = seconds.toInt * 1000000000 + nanos := congrArg (·.nanoseconds) hparts
    have hseconds : nanoseconds / 1000000000 = seconds.toInt := by omega
    rw [hseconds]
    exact ⟨Int64.minValue_le_toInt seconds, Int64.toInt_le seconds⟩

/-- The time some span later, if a clock can hold it. -/
def add? (t : Timestamp) (d : Duration) : Option Timestamp :=
  let sum : Timestamp := ⟨t.nanoseconds + d.nanoseconds⟩
  if sum.Holds then some sum else none

/-- The time some span earlier, if a clock can hold it. -/
def sub? (t : Timestamp) (d : Duration) : Option Timestamp :=
  let difference : Timestamp := ⟨t.nanoseconds - d.nanoseconds⟩
  if difference.Holds then some difference else none

def epoch : Timestamp := ⟨0⟩

/-- The span of some ticks. -/
def spanOf (ticks : Nat) : Duration :=
  .ofParts (ticks / ticksPerSecond) (ticks % ticksPerSecond * nanosPerTick)

/-- The time of a count of ticks, reached from the epoch by a span, if a clock can hold it. -/
def ofTicks? (ticks : Int64) : Option Timestamp :=
  if 0 ≤ ticks then epoch.add? (spanOf ticks.toInt.natAbs)
  else epoch.sub? (spanOf ticks.toInt.natAbs)

theorem nanoseconds_spanOf (ticks : Nat) : (spanOf ticks).nanoseconds = ticks * 100 := by
  show ticks / 10000000 * 1000000000 + ticks % 10000000 * 100 = ticks * 100
  omega

/-- A clock can hold the time of every count of ticks. -/
theorem holds_ofTicks (ticks : Int64) : (ofTicks ticks).Holds := by
  have hlow := Int64.minValue_le_toInt ticks
  have hhigh := Int64.toInt_le ticks
  rw [Holds, wholeSeconds_eq]
  rw [Int64.toInt_minValue] at hlow ⊢
  rw [Int64.toInt_maxValue] at hhigh ⊢
  show -2 ^ 63 ≤ ticks.toInt * 100 / 1000000000 ∧ ticks.toInt * 100 / 1000000000 ≤ 2 ^ 63 - 1
  omega

/-- The time of a count of ticks is reached on either side of the epoch. -/
theorem ofTicks?_eq (ticks : Int64) : ofTicks? ticks = some (ofTicks ticks) := by
  rw [ofTicks?]
  split
  · rename_i hafter
    rw [Int64.le_iff_toInt_le, Int64.toInt_zero] at hafter
    have hsum : (⟨epoch.nanoseconds + (spanOf ticks.toInt.natAbs).nanoseconds⟩ : Timestamp) =
        ofTicks ticks := by
      rw [nanoseconds_spanOf]
      show (⟨0 + _⟩ : Timestamp) = ⟨ticks.toInt * 100⟩
      congr 1
      omega
    rw [add?, hsum]
    exact if_pos (holds_ofTicks ticks)
  · rename_i hbefore
    rw [Int64.le_iff_toInt_le, Int64.toInt_zero] at hbefore
    have hdifference :
        (⟨epoch.nanoseconds - (spanOf ticks.toInt.natAbs).nanoseconds⟩ : Timestamp) =
          ofTicks ticks := by
      rw [nanoseconds_spanOf]
      show (⟨0 - _⟩ : Timestamp) = ⟨ticks.toInt * 100⟩
      congr 1
      omega
    rw [sub?, hdifference]
    exact if_pos (holds_ofTicks ticks)

/-- What is written for the time of a count of ticks: the count itself, but the least of all has
no counterpart on the other side of the epoch and is written as its neighbour. -/
theorem toTicks_ofTicks (ticks : Int64) :
    (ofTicks ticks).toTicks = if ticks = Int64.minValue then Int64.minValue + 1 else ticks := by
  split
  · rename_i hleast
    subst hleast
    decide
  · rename_i hleast
    exact toTicks_ofTicks_iff.2 hleast

end Multiplayer.Timestamp
