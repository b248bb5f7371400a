import Multiplayer.Bytes

/-!
# Base64

The standard alphabet with required padding.  Decoding takes four characters at a time; only the
last group may be padded, and the bits that padding leaves over must be zero, so each byte string
has one written form.

* `length_of_decode`: a written form has four characters for every three bytes.
-/

namespace Multiplayer.Base64

def digit (n : Nat) : Char :=
  if n < 26 then Char.ofNat ('A'.toNat + n)
  else if n < 52 then Char.ofNat ('a'.toNat + (n - 26))
  else if n < 62 then Char.ofNat ('0'.toNat + (n - 52))
  else if n = 62 then '+'
  else '/'

def value? (c : Char) : Option Nat :=
  if 'A' ≤ c ∧ c ≤ 'Z' then some (c.toNat - 'A'.toNat)
  else if 'a' ≤ c ∧ c ≤ 'z' then some (c.toNat - 'a'.toNat + 26)
  else if '0' ≤ c ∧ c ≤ '9' then some (c.toNat - '0'.toNat + 52)
  else if c = '+' then some 62
  else if c = '/' then some 63
  else none

def encode : Bytes → List Char
  | [] => []
  | [a] => [digit (a.toNat / 4), digit (a.toNat % 4 * 16), '=', '=']
  | [a, b] =>
    [digit (a.toNat / 4), digit (a.toNat % 4 * 16 + b.toNat / 16), digit (b.toNat % 16 * 4), '=']
  | a :: b :: c :: rest =>
    digit (a.toNat / 4) :: digit (a.toNat % 4 * 16 + b.toNat / 16) ::
      digit (b.toNat % 16 * 4 + c.toNat / 64) :: digit (c.toNat % 64) :: encode rest

/-- The byte of a last group with two pads. -/
def oneByte? (p q : Char) : Option Bytes := do
  let p ← value? p
  let q ← value? q
  if q % 16 = 0 then some [UInt8.ofNat (p * 4 + q / 16)] else none

/-- The bytes of a last group with one pad. -/
def twoBytes? (p q r : Char) : Option Bytes := do
  let p ← value? p
  let q ← value? q
  let r ← value? r
  if r % 4 = 0 then
    some [UInt8.ofNat (p * 4 + q / 16), UInt8.ofNat (q % 16 * 16 + r / 4)]
  else none

/-- The bytes of a group without pads. -/
def threeBytes? (p q r s : Char) : Option Bytes := do
  let p ← value? p
  let q ← value? q
  let r ← value? r
  let s ← value? s
  some [UInt8.ofNat (p * 4 + q / 16), UInt8.ofNat (q % 16 * 16 + r / 4),
    UInt8.ofNat (r % 4 * 64 + s)]

def decode? : List Char → Option Bytes
  | [] => some []
  | [p, q, '=', '='] => oneByte? p q
  | [p, q, r, '='] => twoBytes? p q r
  | p :: q :: r :: s :: rest => do
    let group ← threeBytes? p q r s
    let bytes ← decode? rest
    some (group ++ bytes)
  | _ => none

theorem length_of_oneByte? {p q : Char} {bytes : Bytes} (h : oneByte? p q = some bytes) :
    bytes.length = 1 := by
  unfold oneByte? at h
  cases hp : value? p <;> cases hq : value? q <;> simp [hp, hq] at h
  obtain ⟨_, rfl⟩ := h
  rfl

theorem length_of_twoBytes? {p q r : Char} {bytes : Bytes} (h : twoBytes? p q r = some bytes) :
    bytes.length = 2 := by
  unfold twoBytes? at h
  cases hp : value? p <;> cases hq : value? q <;> cases hr : value? r <;> simp [hp, hq, hr] at h
  obtain ⟨_, rfl⟩ := h
  rfl

theorem length_of_threeBytes? {p q r s : Char} {bytes : Bytes}
    (h : threeBytes? p q r s = some bytes) : bytes.length = 3 := by
  unfold threeBytes? at h
  cases hp : value? p <;> cases hq : value? q <;> cases hr : value? r <;> cases hs : value? s <;>
    simp [hp, hq, hr, hs] at h
  subst h
  rfl

theorem length_of_decode {text : List Char} {bytes : Bytes} (h : decode? text = some bytes) :
    4 * bytes.length ≤ 3 * text.length := by
  fun_induction decode? text generalizing bytes with
  | case1 => simp_all
  | case2 p q =>
    have := length_of_oneByte? h
    simp only [List.length_cons, List.length_nil]
    omega
  | case3 p q r =>
    have := length_of_twoBytes? h
    simp only [List.length_cons, List.length_nil]
    omega
  | case4 p q r s rest _ _ ih =>
    cases hg : threeBytes? p q r s with
    | none => simp [hg] at h
    | some group =>
      cases hr : decode? rest with
      | none => simp [hg, hr] at h
      | some more =>
        simp only [hg, hr, Option.bind_eq_bind, Option.bind_some, Option.some.injEq] at h
        subst h
        have := length_of_threeBytes? hg
        have := ih hr
        simp only [List.length_append, List.length_cons]
        omega
  | case5 => simp at h

end Multiplayer.Base64
