/-!
# Shortest decimal digits of a binary fraction

A positive binary64 number is `mantissa * 2 ^ exponent`.  Every real number closer to it than to
its neighbours reads back as the same number; the written form is the decimal with the fewest
digits among them, the nearest of those if there are several, and the one farther from zero if
two are equally near.

* `Binary.ofBits` decodes the 64 bits of a number.
* `Magnitude.shortest` finds the digits, in exact integer arithmetic.
* `Binary.toText` writes them out in full, without an exponent.
-/

namespace Multiplayer.Decimal

/-- A positive number `mantissa * 2 ^ exponent`.  The lower neighbour is half as far away as the
upper one when `tight` holds: the number is the least of its binade. -/
structure Magnitude where
  mantissa : Nat
  exponent : Int
  tight : Bool
deriving DecidableEq, Repr

/-- What the 64 bits of a binary64 number denote. -/
inductive Binary where
  | nan
  | infinite (negative : Bool)
  | zero (negative : Bool)
  | finite (negative : Bool) (magnitude : Magnitude)
deriving DecidableEq, Repr

/-- Decodes sign, exponent and fraction. -/
def Binary.ofBits (bits : UInt64) : Binary :=
  let n := bits.toNat
  let negative : Bool := n / Nat.pow 2 63 = 1
  let biased : Nat := n / Nat.pow 2 52 % Nat.pow 2 11
  let fraction : Nat := n % Nat.pow 2 52
  if biased = 2047 then
    if fraction = 0 then .infinite negative else .nan
  else if biased = 0 then
    if fraction = 0 then .zero negative else .finite negative ⟨fraction, -1074, false⟩
  else .finite negative ⟨Nat.pow 2 52 + fraction, (biased : Int) - 1075, fraction = 0 && 1 < biased⟩

/-! ## Exact comparison on a common scale -/

/-- Four times a magnitude and the two ends of its rounding interval as numerators over one
denominator: the ends are halfway to the neighbours. -/
structure Interval where
  low : Nat
  value : Nat
  high : Nat
  denominator : Nat
  /-- The ends themselves read back as the number. -/
  closed : Bool
deriving DecidableEq, Repr

/-- The rounding interval of a magnitude.  A tie goes to the even mantissa, so the ends belong to
the interval of an even one. -/
def Magnitude.interval (x : Magnitude) : Interval :=
  let scale := Nat.pow 2 x.exponent.toNat
  let value := 4 * x.mantissa
  ⟨(value - if x.tight then 1 else 2) * scale, value * scale, (value + 2) * scale,
    4 * Nat.pow 2 (-x.exponent).toNat, x.mantissa % 2 = 0⟩

/-- Whether `n / d` lies in an interval. -/
def Interval.contains (i : Interval) (n d : Nat) : Bool :=
  if i.closed then i.low * d ≤ n * i.denominator && n * i.denominator ≤ i.high * d
  else i.low * d < n * i.denominator && n * i.denominator < i.high * d

/-! ## The search -/

/-- The decimal `digits * 10 ^ exponent`. -/
structure Digits where
  digits : Nat
  exponent : Int
deriving DecidableEq, Repr

/-- The point of the grid of multiples of `10 ^ exponent` that is chosen for an interval: of the
two grid points around the value, those inside the interval, and of two the nearer, the greater
at a tie. -/
def Interval.onGrid? (i : Interval) (exponent : Int) : Option Digits :=
  let up := Nat.pow 10 exponent.toNat
  let down := Nat.pow 10 (-exponent).toNat
  let floor := i.value * down / (i.denominator * up)
  let below := i.contains (floor * up) down
  let above := i.contains ((floor + 1) * up) down
  let rest := i.value * down - floor * (i.denominator * up)
  if above && (!below || i.denominator * up ≤ 2 * rest) then some ⟨floor + 1, exponent⟩
  else if below then some ⟨floor, exponent⟩
  else none

/-- An exponent of ten just above a magnitude: `10 ^ order` exceeds it by a factor of at most
about a hundred. -/
def Magnitude.order (x : Magnitude) : Int :=
  ((x.mantissa.log2 + 1 : Int) + x.exponent) * 30103 / 100000 + 1

/-- The digits on the coarsest grid that has a point in the interval, searching `steps` grids
from the given one down. -/
def Interval.coarsest (i : Interval) : (steps : Nat) → (exponent : Int) → Digits
  | 0, exponent =>
    let up := Nat.pow 10 exponent.toNat
    let down := Nat.pow 10 (-exponent).toNat
    ⟨i.value * down / (i.denominator * up), exponent⟩
  | steps + 1, exponent =>
    match i.onGrid? exponent with
    | some found => found
    | none => i.coarsest steps (exponent - 1)

/-- The fewest digits that read back.  Seventeen always suffice, and two more grids cover the
slack of `order`. -/
def Magnitude.shortest (x : Magnitude) : Digits := x.interval.coarsest 20 x.order

/-! ## Writing digits in full -/

/-- A decimal in positional notation: zeros before, a point inside, or zeros after. -/
def Digits.toText (d : Digits) : String :=
  if 0 ≤ d.exponent then toString (d.digits * Nat.pow 10 d.exponent.toNat)
  else
    let places := (-d.exponent).toNat
    let shown := (toString d.digits).toList
    let shown := List.replicate (places + 1 - shown.length) '0' ++ shown
    let split := shown.length - places
    String.ofList (shown.take split ++ '.' :: shown.drop split)

/-- The text of a number: a sign if it has one, and its digits in full. -/
def Binary.toText : Binary → String
  | .nan => "NaN"
  | .infinite negative => (if negative then "-" else "") ++ "inf"
  | .zero negative => (if negative then "-" else "") ++ "0"
  | .finite negative x => (if negative then "-" else "") ++ x.shortest.toText

end Multiplayer.Decimal
