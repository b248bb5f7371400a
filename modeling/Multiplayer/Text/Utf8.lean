import Multiplayer.Bytes

/-!
# UTF-8

A byte string is cut into *segments*: a well-formed sequence stands for a scalar value, a
maximal ill-formed part is a segment of its own, and a sequence that the end of the input cuts
short is the last segment.  Strict and lenient decoding are two readings of the same cut.

* `decode` accepts only scalar segments and otherwise says where the first other one stands.
* `decodeLossy` puts U+FFFD for every segment that is not a scalar.
* `length_segments_le`: there are never more segments than bytes.
-/

namespace Multiplayer.Utf8

def encode (text : List Char) : Bytes := text.flatMap String.utf8EncodeChar

/-! ## Cutting a byte string -/

/-- What stands at the front of a byte string. -/
inductive Segment where
  | scalar (c : Char)
  /-- The given number of bytes is the longest part that could still have become a scalar. -/
  | malformed (length : Nat)
  /-- The input ends inside a sequence that is well formed so far. -/
  | incomplete
deriving DecidableEq, Repr

/-- What a lead byte announces: how many bytes follow, the bounds of the first of them, and the
bits that the lead byte contributes. -/
structure Lead where
  count : Nat
  low : UInt8
  high : UInt8
  bits : Nat
deriving DecidableEq, Repr

/-- The announcement of a lead byte.  The narrowed bounds exclude overlong forms, surrogates and
values above U+10FFFF. -/
def lead? (b : UInt8) : Option Lead :=
  if b < 0xC2 then none
  else if b < 0xE0 then some ⟨1, 0x80, 0xBF, b.toNat - 0xC0⟩
  else if b < 0xF0 then
    some ⟨2, if b = 0xE0 then 0xA0 else 0x80, if b = 0xED then 0x9F else 0xBF, b.toNat - 0xE0⟩
  else if b < 0xF5 then
    some ⟨3, if b = 0xF0 then 0x90 else 0x80, if b = 0xF4 then 0x8F else 0xBF, b.toNat - 0xF0⟩
  else none

/-- Takes `count` continuation bytes, the first of them between `low` and `high`, onto the bits
read so far; `taken` bytes of the sequence stand before. -/
def follow : (count : Nat) → (low high : UInt8) → (bits taken : Nat) → Bytes → Segment × Bytes
  | 0, _, _, bits, _, rest => (.scalar (Char.ofNat bits), rest)
  | _ + 1, _, _, _, _, [] => (.incomplete, [])
  | count + 1, low, high, bits, taken, b :: rest =>
    if low ≤ b ∧ b ≤ high then
      follow count 0x80 0xBF (64 * bits + (b.toNat - 0x80)) (taken + 1) rest
    else (.malformed taken, b :: rest)

/-- The first segment of a nonempty byte string, and what stands after it. -/
def front (b : UInt8) (rest : Bytes) : Segment × Bytes :=
  if b < 0x80 then (.scalar (Char.ofNat b.toNat), rest)
  else match lead? b with
    | none => (.malformed 1, rest)
    | some lead => follow lead.count lead.low lead.high lead.bits 1 rest

theorem length_follow_le (count : Nat) (low high : UInt8) (bits taken : Nat) (rest : Bytes) :
    (follow count low high bits taken rest).2.length ≤ rest.length := by
  fun_induction follow count low high bits taken rest with
  | case1 => exact Nat.le_refl _
  | case2 => exact Nat.le_refl _
  | case3 count low high bits taken b rest _ ih => exact Nat.le_succ_of_le ih
  | case4 => exact Nat.le_refl _

theorem length_front_le (b : UInt8) (rest : Bytes) : (front b rest).2.length ≤ rest.length := by
  unfold front
  split
  · exact Nat.le_refl _
  · split
    · exact Nat.le_refl _
    · exact length_follow_le ..

/-- The segments of a byte string, from front to back. -/
def segments : Bytes → List Segment
  | [] => []
  | b :: rest => (front b rest).1 :: segments (front b rest).2
termination_by bytes => bytes.length
decreasing_by exact Nat.lt_succ_of_le (length_front_le b rest)

theorem length_segments_le (bytes : Bytes) : (segments bytes).length ≤ bytes.length := by
  fun_induction segments bytes with
  | case1 => exact Nat.le_refl _
  | case2 b rest ih => exact Nat.succ_le_succ (Nat.le_trans ih (length_front_le b rest))

/-! ## Strict and lenient decoding -/

/-- Where a byte string stops being UTF-8: the length of its well-formed front, and the length of
the ill-formed part after it, if that is not the end of the input. -/
structure Fault where
  index : Nat
  length : Option Nat
deriving DecidableEq, Repr

def Fault.message (fault : Fault) : String :=
  match fault.length with
  | some length => s!"invalid utf-8 sequence of {length} bytes from index {fault.index}"
  | none => s!"incomplete utf-8 byte sequence from index {fault.index}"

/-- Joins scalar segments; `index` bytes stand before them. -/
def join (index : Nat) : List Segment → Except Fault (List Char)
  | [] => .ok []
  | .scalar c :: more => do
    let text ← join (index + c.utf8Size) more
    return c :: text
  | .malformed length :: _ => .error ⟨index, some length⟩
  | .incomplete :: _ => .error ⟨index, none⟩

/-- The text that a byte string spells, or its first fault. -/
def decode (bytes : Bytes) : Except Fault (List Char) := join 0 (segments bytes)

/-- The character that stands for a segment: U+FFFD for one that is not a scalar. -/
def Segment.toChar : Segment → Char
  | .scalar c => c
  | .malformed _ | .incomplete => '\uFFFD'

/-- The text of a byte string with every ill-formed part replaced by U+FFFD. -/
def decodeLossy (bytes : Bytes) : List Char := (segments bytes).map Segment.toChar

theorem length_decodeLossy_le (bytes : Bytes) : (decodeLossy bytes).length ≤ bytes.length := by
  simpa [decodeLossy] using length_segments_le bytes

end Multiplayer.Utf8
