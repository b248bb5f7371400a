import Multiplayer.Proofs.Wire.Passing
import Multiplayer.Proofs.Wire.Reads

/-!
# What a decoder accepts

A decoder is exact if it gives a value from the bytes that spell the value, wherever these stand,
and from no others.

* `Cursor.GoesOver`: a cursor goes over some bytes; `goesOver_append_iff` cuts such a way in two.
* `Decoder.Exact` is exactness, `Exact.of_reads` what there is to show of it, and `Exact.run_bind`
  how it is used.
* `Decoder.exact_uint16`, `Decoder.exact_enumerated`: a number, and a value of an enumerated field.
-/

namespace Multiplayer

open Decoder (Reads)

/-- The digits of a 16-bit number. -/
def Bytes.ofUInt16 (n : UInt16) : Bytes := Bytes.ofNat 2 n.toNat

@[simp] theorem Bytes.length_ofUInt16 (n : UInt16) : (Bytes.ofUInt16 n).length = 2 :=
  Bytes.length_ofNat 2 n.toNat

/-! ## Ways of a cursor -/

/-- The cursor goes over exactly these bytes. -/
structure Cursor.GoesOver (c : Cursor) (bytes : Bytes) (c' : Cursor) : Prop where
  rest : c.rest = bytes ++ c'.rest
  position : c'.position = c.position + bytes.length

namespace Cursor

variable {c c' c'' : Cursor} {bytes more : Bytes}

theorem goesOver_nil_iff : c.GoesOver [] c' ↔ c' = c := by
  constructor
  · rintro ⟨hrest, hposition⟩
    obtain ⟨position', rest'⟩ := c'
    obtain rfl : position' = c.position := hposition
    obtain rfl : c.rest = rest' := hrest
    rfl
  · rintro rfl
    exact ⟨rfl, rfl⟩

theorem GoesOver.append (h : c.GoesOver bytes c') (hmore : c'.GoesOver more c'') :
    c.GoesOver (bytes ++ more) c'' where
  rest := by rw [h.rest, hmore.rest, List.append_assoc]
  position := by rw [hmore.position, h.position, List.length_append, Nat.add_assoc]

theorem goesOver_append_iff :
    c.GoesOver (bytes ++ more) c'' ↔ ∃ c', c.GoesOver bytes c' ∧ c'.GoesOver more c'' := by
  constructor
  · rintro ⟨hrest, hposition⟩
    refine ⟨⟨c.position + bytes.length, more ++ c''.rest⟩, ⟨?_, rfl⟩, ⟨rfl, ?_⟩⟩
    · rw [hrest, List.append_assoc]
    · rw [hposition, List.length_append, Nat.add_assoc]
  · rintro ⟨c', h, hmore⟩
    exact h.append hmore

theorem Passes.goesOver {ws : List Primitive} (h : c.Passes ws c') :
    c.GoesOver (ws.flatMap Primitive.toBytes) c' :=
  ⟨h.rest, h.position⟩

end Cursor

/-! ## Exact decoders -/

namespace Decoder

variable {α β : Type} {c c' : Cursor}

theorem Reads.run {decoder : Decoder α} {bytes : Bytes} {a : α} (h : Reads decoder bytes a)
    (hover : c.GoesOver bytes c') : decoder.run.run c = (.ok a, c') := by
  obtain ⟨position, rest⟩ := c
  obtain ⟨position', rest'⟩ := c'
  obtain ⟨hrest, hposition⟩ := hover
  dsimp only at hrest hposition
  rw [hrest, hposition, h]

/-- The decoder gives a value if it goes over the bytes that spell it, and not otherwise. -/
def Exact (decoder : Decoder α) (encode : α → Bytes) : Prop :=
  ∀ ⦃c c' : Cursor⦄ ⦃a : α⦄, decoder.run.run c = (.ok a, c') ↔ c.GoesOver (encode a) c'

namespace Exact

theorem of_reads {decoder : Decoder α} {encode : α → Bytes}
    (hreads : ∀ a, Reads decoder (encode a) a)
    (hover : ∀ {c c' a}, decoder.run.run c = (.ok a, c') → c.GoesOver (encode a) c') :
    Exact decoder encode :=
  fun _ _ a => ⟨hover, (hreads a).run⟩

theorem reads {x : Decoder α} {encode : α → Bytes} (hx : Exact x encode) (a : α) :
    Reads x (encode a) a :=
  fun _ _ => hx.2 ⟨rfl, rfl⟩

/-- What comes after an exact decoder goes on behind the bytes that it has taken. -/
theorem run_bind {x : Decoder α} {encode : α → Bytes} (hx : Exact x encode) {f : α → Decoder β}
    {a : α} (hover : c.GoesOver (encode a) c') :
    (x >>= f).run.run c = (f a).run.run c' := by
  rw [Attempt.run_bind, hx.2 hover]

end Exact

theorem exact_uint16 : Exact uint16 Bytes.ofUInt16 :=
  .of_reads reads_uint16 fun h => by
    have hover := (passes_uint16 h).goesOver
    rwa [List.flatMap_singleton] at hover

theorem exact_uint8 : Exact uint8 ([·]) := by
  have hdigit (n : UInt8) : Bytes.ofNat 1 n.toNat = [n] := by simp [Bytes.ofNat]
  refine .of_reads (fun n => hdigit n ▸ reads_uint8 n) fun {c c' n} h => ?_
  have hover := (passes_uint8 h).goesOver
  rwa [List.flatMap_singleton, Primitive.toBytes, hdigit] at hover

/-- An enumerated field of which every value has one byte. -/
theorem exact_enumerated {ofByte? : UInt8 → Except WireError α} {toByte : α → UInt8}
    (h : ∀ byte a, ofByte? byte = .ok a ↔ byte = toByte a) :
    Exact (enumerated ofByte?) fun a => [toByte a] := by
  intro c c' a
  constructor
  · intro hrun
    obtain ⟨byte, c₁, hbyte, hrun⟩ := Attempt.run_bind_ok hrun
    obtain ⟨hvalue, rfl⟩ := Prod.mk.inj hrun
    obtain rfl := (h byte a).1 hvalue
    exact exact_uint8.1 hbyte
  · intro hover
    refine (exact_uint8.run_bind hover).trans ?_
    rw [(h _ a).2 rfl]
    rfl

end Decoder

end Multiplayer
