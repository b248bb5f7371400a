import Multiplayer.Attempt
import Multiplayer.Wire.Error

/-!
# Reading a payload

A cursor stands between the bytes already read and the rest.  A decoder moves it and may fail;
after a failure the cursor stands where the failing read left it, and reading can go on.

* `splitAt?_eq_some_iff`: bytes are taken exactly when there are enough, and none is lost.
* `take_run`: what a read of some bytes does to the cursor.
-/

namespace Multiplayer

/-- A position in a payload: how many bytes were read, and the bytes that were not. -/
structure Cursor where
  position : Nat
  rest : Bytes
deriving DecidableEq, Repr

namespace Cursor

def ofBytes (payload : Bytes) : Cursor := ⟨0, payload⟩

def remaining (c : Cursor) : Nat := c.rest.length

def length (c : Cursor) : Nat := c.position + c.remaining

def isAtEnd (c : Cursor) : Bool := c.rest.isEmpty

end Cursor

/-- A read of an `α`: it moves the cursor and gives a value or an error. -/
abbrev Decoder (α : Type) := Attempt WireError Cursor α

namespace Decoder

/-- The first `n` bytes and the others, if there are `n`. -/
def splitAt? : (n : Nat) → Bytes → Option (Bytes × Bytes)
  | 0, bytes => some ([], bytes)
  | _ + 1, [] => none
  | n + 1, b :: bytes => (splitAt? n bytes).map fun (taken, rest) => (b :: taken, rest)

theorem splitAt?_eq_some_iff {n : Nat} {bytes taken rest : Bytes} :
    splitAt? n bytes = some (taken, rest) ↔ bytes = taken ++ rest ∧ taken.length = n := by
  induction n generalizing bytes taken with
  | zero =>
    simp only [splitAt?, Option.some.injEq, Prod.mk.injEq, List.length_eq_zero_iff]
    constructor
    · rintro ⟨rfl, rfl⟩
      exact ⟨rfl, rfl⟩
    · rintro ⟨rfl, rfl⟩
      exact ⟨rfl, rfl⟩
  | succ n ih =>
    cases bytes with
    | nil =>
      simp only [splitAt?, reduceCtorEq, false_iff, not_and]
      intro h hlen
      rw [List.nil_eq, List.append_eq_nil_iff] at h
      simp [h.1] at hlen
    | cons b bytes =>
      simp only [splitAt?, Option.map_eq_some_iff, Prod.exists, Prod.mk.injEq]
      constructor
      · rintro ⟨t, r, h, rfl, rfl⟩
        obtain ⟨rfl, rfl⟩ := ih.1 h
        exact ⟨rfl, rfl⟩
      · rintro ⟨h, hlen⟩
        cases taken with
        | nil => simp at hlen
        | cons t taken =>
          simp only [List.cons_append, List.cons.injEq] at h
          obtain ⟨rfl, h⟩ := h
          exact ⟨taken, rest, ih.2 ⟨h, by simpa using hlen⟩, rfl, rfl⟩

theorem splitAt?_eq_none_iff {n : Nat} {bytes : Bytes} :
    splitAt? n bytes = none ↔ bytes.length < n := by
  induction n generalizing bytes with
  | zero => simp [splitAt?]
  | succ n ih =>
    cases bytes with
    | nil => simp [splitAt?]
    | cons b bytes => simp [splitAt?, ih]

def take (n : Nat) : Decoder Bytes := fun c =>
  match splitAt? n c.rest with
  | some (taken, rest) => (.ok taken, ⟨c.position + n, rest⟩)
  | none => (.error (.truncated c.position n c.length), c)

theorem take_run (n : Nat) (c : Cursor) :
    (take n).run.run c = match splitAt? n c.rest with
      | some (taken, rest) => (.ok taken, ⟨c.position + n, rest⟩)
      | none => (.error (.truncated c.position n c.length), c) := rfl

theorem take_run_of_le {n : Nat} {c : Cursor} (h : n ≤ c.remaining) :
    (take n).run.run c = (.ok (c.rest.take n), ⟨c.position + n, c.rest.drop n⟩) := by
  have hsplit : splitAt? n c.rest = some (c.rest.take n, c.rest.drop n) :=
    splitAt?_eq_some_iff.2 ⟨(List.take_append_drop n c.rest).symm, List.length_take_of_le h⟩
  rw [take_run, hsplit]

/-- A read that wants more than is left says how much it wants, and nothing is taken. -/
theorem take_run_of_lt {n : Nat} {c : Cursor} (h : c.remaining < n) :
    (take n).run.run c = (.error (.truncated c.position n c.length), c) := by
  rw [take_run, splitAt?_eq_none_iff.2 h]

theorem take_run_ok {n : Nat} {c c' : Cursor} {bytes : Bytes}
    (h : (take n).run.run c = (.ok bytes, c')) :
    c.rest = bytes ++ c'.rest ∧ bytes.length = n ∧ c'.position = c.position + n := by
  rw [take_run] at h
  cases hs : splitAt? n c.rest with
  | none =>
    rw [hs] at h
    cases h
  | some parts =>
    obtain ⟨taken, rest⟩ := parts
    rw [hs] at h
    cases h
    obtain ⟨hrest, hlen⟩ := splitAt?_eq_some_iff.1 hs
    exact ⟨hrest, hlen, rfl⟩

def atEnd : Decoder Bool := return (← get).isAtEnd

/-- A big-endian number of some bytes. -/
def word (width : Nat) : Decoder Nat := return Bytes.toNat (← take width)

def uint8 : Decoder UInt8 := return UInt8.ofNat (← word 1)
def uint16 : Decoder UInt16 := return UInt16.ofNat (← word 2)
def uint32 : Decoder UInt32 := return UInt32.ofNat (← word 4)
def uint64 : Decoder UInt64 := return UInt64.ofNat (← word 8)

theorem length_rest_of_word {width n : Nat} {c c' : Cursor}
    (h : (word width).run.run c = (.ok n, c')) : c'.rest.length + width = c.rest.length := by
  obtain ⟨bytes, c₁, h₁, h₂⟩ := Attempt.run_bind_ok h
  obtain ⟨hrest, hlen, _⟩ := take_run_ok h₁
  cases h₂
  rw [hrest, List.length_append, hlen, Nat.add_comm]

theorem length_rest_of_uint16 {n : UInt16} {c c' : Cursor}
    (h : uint16.run.run c = (.ok n, c')) : c'.rest.length + 2 = c.rest.length := by
  obtain ⟨n, c₁, h₁, h₂⟩ := Attempt.run_bind_ok h
  cases h₂
  exact length_rest_of_word h₁

/-- A byte string behind its 16-bit length. -/
def sized : Decoder Bytes := do take (← uint16).toNat

/-- A text: its UTF-8 form behind its 16-bit length. -/
def text : Decoder String := do
  match Utf8.decode (← sized) with
  | .ok text => return String.ofList text
  | .error fault => throw (.invalidUtf8 fault)

/-- A number of seconds that must be a duration. -/
def duration : Decoder Duration := do
  let seconds ← uint64
  match Duration.ofSeconds seconds with
  | .ok duration => return duration
  | .error fault => throw (.invalidDuration seconds fault)

/-- As many elements as asked for, one after another. -/
def replicate {α : Type} (element : Decoder α) : (count : Nat) → Decoder (List α)
  | 0 => return []
  | count + 1 => do
    let first ← element
    let others ← replicate element count
    return first :: others

def list {α : Type} (element : Decoder α) : Decoder (List α) := do
  replicate element (← uint16).toNat

/-- A value of an enumerated field, from its byte. -/
def enumerated {α : Type} (ofByte? : UInt8 → Except WireError α) : Decoder α := do
  Attempt.ofExcept (ofByte? (← uint8))

end Decoder

/-- Reads a payload from its start. -/
def Decoder.decode {α : Type} (decoder : Decoder α) (payload : Bytes) : Except WireError α :=
  (decoder.run.run (.ofBytes payload)).1

end Multiplayer
