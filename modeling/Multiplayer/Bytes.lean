/-!
# Byte strings and big-endian digits

Everything on the wire is a list of bytes, and every number on the wire is written as
base-256 digits with the most significant digit first.

* `Bytes.ofNat` writes the low digits of a number in a given width, `Bytes.toNat` reads digits.
* `toNat_ofNat`: what is read back is the number modulo `256 ^ width`.
* `ofNat_toNat`: digits are recovered from the number they denote and their count.
-/

namespace Multiplayer

abbrev Bytes := List UInt8

namespace Bytes

/-- The `width` low base-256 digits of `n`, most significant first. -/
def ofNat : (width n : Nat) → Bytes
  | 0, _ => []
  | width + 1, n => ofNat width (n / 256) ++ [UInt8.ofNat n]

/-- The number that base-256 digits denote, most significant first. -/
def toNat (digits : Bytes) : Nat :=
  digits.foldl (fun n digit => 256 * n + digit.toNat) 0

@[simp] theorem length_ofNat (width n : Nat) : (ofNat width n).length = width := by
  induction width generalizing n with
  | zero => rfl
  | succ width ih => simp [ofNat, ih]

@[simp] theorem toNat_nil : toNat [] = 0 := rfl

theorem toNat_concat (digits : Bytes) (digit : UInt8) :
    toNat (digits ++ [digit]) = 256 * toNat digits + digit.toNat := by
  simp [toNat]

theorem toNat_ofNat (width n : Nat) : toNat (ofNat width n) = n % Nat.pow 256 width := by
  induction width generalizing n with
  | zero => simp [ofNat, Nat.mod_one]
  | succ width ih =>
    have hpow : Nat.pow 256 (width + 1) = 256 * Nat.pow 256 width := Nat.mul_comm _ _
    have hdigit : (UInt8.ofNat n).toNat = n % 256 := by simp
    rw [ofNat, toNat_concat, ih, hdigit, hpow, Nat.mod_mul]
    omega

theorem toNat_lt (digits : Bytes) : toNat digits < Nat.pow 256 digits.length := by
  suffices h : ∀ digits : Bytes, toNat digits.reverse < Nat.pow 256 digits.length by
    simpa using h digits.reverse
  intro digits
  induction digits with
  | nil => simp
  | cons digit digits ih =>
    have := digit.toNat_lt
    rw [List.reverse_cons, toNat_concat, List.length_cons]
    change _ < Nat.pow 256 digits.length * 256
    omega

theorem ofNat_toNat (digits : Bytes) : ofNat digits.length (toNat digits) = digits := by
  suffices h : ∀ digits : Bytes, ofNat digits.length (toNat digits.reverse) = digits.reverse by
    simpa using h digits.reverse
  intro digits
  induction digits with
  | nil => rfl
  | cons digit digits ih =>
    have := digit.toNat_lt
    have hdiv : (256 * toNat digits.reverse + digit.toNat) / 256 = toNat digits.reverse := by omega
    have hdigit : UInt8.ofNat (256 * toNat digits.reverse + digit.toNat) = digit := by
      apply UInt8.toNat_inj.1
      simp
    simp only [List.reverse_cons, toNat_concat, List.length_cons, ofNat, hdiv, ih, hdigit]

end Bytes

end Multiplayer
