import Multiplayer.Proofs.Time.Ticks
import Multiplayer.Proofs.Wire.Filling
import Multiplayer.Proofs.Wire.Passing
import Multiplayer.Proofs.Wire.RoundTrip

/-!
# Writing back what was read

A value is read from the bytes that would be written for it, but for two exceptions: any byte but
zero is read as true, and one count of ticks is read as a time that is written as another.

* `Shape.bare` is the shape in which a value is read first, with bytes for truth values and counts
  of ticks for times; `Shape.meaning` makes the value of it.
* `Shape.Canonical`: the byte or the count is the one that is written.
* `Shape.passes_read_bare`: a bare value is always read from its own bytes.
* `WireValue.writeAll_readAll` is the result.
-/

namespace Multiplayer

theorem Bytes.ofNat_inj {width m n : Nat} (hm : m < Nat.pow 256 width)
    (hn : n < Nat.pow 256 width) : ofNat width m = ofNat width n ↔ m = n := by
  constructor
  · intro h
    have hvalue := congrArg toNat h
    rwa [toNat_ofNat, toNat_ofNat, Nat.mod_eq_of_lt hm, Nat.mod_eq_of_lt hn] at hvalue
  · rintro rfl
    rfl

/-- Pieces of equal lengths join to the same bytes only if they are the same. -/
theorem Bytes.flatMap_eq_flatMap_iff {α : Type} {f g : α → Bytes} {as : List α}
    (h : ∀ a ∈ as, (f a).length = (g a).length) :
    as.flatMap f = as.flatMap g ↔ ∀ a ∈ as, f a = g a := by
  induction as with
  | nil => simp
  | cons a as ih =>
    have hothers := ih fun b hb => h b (List.mem_cons_of_mem a hb)
    rw [List.flatMap_cons, List.flatMap_cons, List.forall_mem_cons, ← hothers]
    constructor
    · intro heq
      exact List.append_inj heq (h a List.mem_cons_self)
    · rintro ⟨hfirst, hrest⟩
      rw [hfirst, hrest]

namespace Shape

/-! ## Bare values -/

/-- Whether a value has durations in it, which are rounded when they are written. -/
def hasDuration : Shape → Bool
  | .duration => true
  | .list element => element.hasDuration
  | _ => false

/-- The shape with bytes for truth values and counts of ticks for times. -/
@[reducible] def bare : Shape → Shape
  | .bool => .uint8
  | .time => .int64
  | .list element => .list element.bare
  | shape => shape

/-- The value that is made of a bare one. -/
def meaning : (shape : Shape) → shape.bare.Carrier → shape.Carrier
  | .bool, byte => byte != 0
  | .time, ticks => Timestamp.ofTicks ticks
  | .list element, parts => parts.map element.meaning
  | .uint8, v | .uint16, v | .uint32, v | .uint64, v | .int8, v | .int16, v | .int32, v
  | .int64, v | .float32, v | .float64, v | .text, v | .bytes, v | .duration, v => v

/-- The bare value is the one that is written for its meaning: the byte is `0` or `1`, and the
count of ticks has a counterpart on the other side of the epoch. -/
def Canonical : (shape : Shape) → shape.bare.Carrier → Prop
  | .bool, byte => byte = 0 ∨ byte = 1
  | .time, ticks => ticks ≠ Int64.minValue
  | .list element, parts => ∀ part ∈ parts, element.Canonical part
  | _, _ => True

instance decidableCanonical : (shape : Shape) → DecidablePred shape.Canonical
  | .bool => fun byte => inferInstanceAs (Decidable (byte = 0 ∨ byte = 1))
  | .time => fun ticks => inferInstanceAs (Decidable (ticks ≠ Int64.minValue))
  | .list element => fun parts =>
    have := decidableCanonical element
    inferInstanceAs (Decidable (∀ part ∈ parts, element.Canonical part))
  | .uint8 | .uint16 | .uint32 | .uint64 | .int8 | .int16 | .int32 | .int64 | .float32 | .float64
  | .text | .bytes | .duration => fun _ => isTrue trivial

/-- The bytes that are written for a value. -/
def written (shape : Shape) (v : shape.Carrier) : Bytes :=
  (shape.primitives v).flatMap Primitive.toBytes

/-- Bare values are read from their own bytes. -/
theorem passes_read_bare {shape : Shape} (h : shape.hasDuration = false) {c c' : Cursor}
    {v : shape.bare.Carrier} (hread : shape.bare.read.run.run c = (.ok v, c')) :
    c.Passes (shape.bare.primitives v) c' := by
  induction shape generalizing c c' with
  | bool | uint8 => exact Decoder.passes_uint8 hread
  | uint16 => exact Decoder.passes_uint16 hread
  | uint32 | float32 => exact Decoder.passes_uint32 hread
  | uint64 | float64 => exact Decoder.passes_uint64 hread
  | int8 =>
    obtain ⟨n, c₁, hn, hv⟩ := Attempt.run_bind_ok hread
    cases hv
    exact Decoder.passes_uint8 hn
  | int16 =>
    obtain ⟨n, c₁, hn, hv⟩ := Attempt.run_bind_ok hread
    cases hv
    exact Decoder.passes_uint16 hn
  | int32 =>
    obtain ⟨n, c₁, hn, hv⟩ := Attempt.run_bind_ok hread
    cases hv
    exact Decoder.passes_uint32 hn
  | int64 | time =>
    obtain ⟨n, c₁, hn, hv⟩ := Attempt.run_bind_ok hread
    cases hv
    exact Decoder.passes_uint64 hn
  | text => exact Decoder.passes_text hread
  | bytes => exact Decoder.passes_sized hread
  | duration => cases h
  | list element ih =>
    exact Decoder.passes_list (fun helement => ih h helement) hread

/-! ## Bare values and what is written for their meaning -/

theorem written_list (element : Shape) (elements : List element.Carrier) :
    (list element).written elements =
      Bytes.ofNat 2 elements.length ++ elements.flatMap element.written := by
  rw [written, primitives, List.flatMap_cons, List.flatMap_assoc]
  rfl

theorem length_written_meaning (shape : Shape) (v : shape.bare.Carrier) :
    (shape.written (shape.meaning v)).length = (shape.bare.written v).length := by
  induction shape with
  | list element ih =>
    rw [meaning, written_list, written_list, List.flatMap_map]
    simp only [List.length_append, List.length_map, List.length_flatMap, ih]
  | bool | time => simp [written, primitives, Primitive.toBytes]
  | _ => rfl

theorem count_mem_primitives_meaning {n : Nat} (shape : Shape) (v : shape.bare.Carrier) :
    .count n ∈ shape.primitives (shape.meaning v) ↔ .count n ∈ shape.bare.primitives v := by
  induction shape with
  | list element ih => simp [meaning, primitives, List.flatMap_map, ih]
  | bool | time => simp [primitives]
  | _ => rfl

-- What is written for an element is as long as what it was read from, so two lists agree only
-- element by element.
/-- The bytes written for the meaning of a bare value are its own exactly if it is canonical. -/
theorem written_meaning_iff (shape : Shape) (v : shape.bare.Carrier) :
    shape.written (shape.meaning v) = shape.bare.written v ↔ shape.Canonical v := by
  induction shape with
  | bool =>
    have hbytes : Shape.bool.written (v != 0) = [if v != 0 then 1 else 0] := by
      cases v != 0 <;> rfl
    have hbare : Shape.uint8.written v = [v] := by
      simp [written, primitives, Primitive.toBytes, Bytes.ofNat]
    rw [meaning, hbytes, hbare, Canonical]
    by_cases hzero : v = 0
    · simp [hzero]
    · have hnonzero : (v != 0) = true := by simpa using hzero
      simp only [hnonzero, if_true, List.cons.injEq, and_true, hzero, false_or]
      exact eq_comm
  | time =>
    have hbytes : Shape.time.written (.ofTicks v) =
        Bytes.ofNat 8 (Timestamp.ofTicks v).toTicks.toUInt64.toNat := by
      simp [written, primitives, Primitive.toBytes]
    have hbare : Shape.int64.written v = Bytes.ofNat 8 v.toUInt64.toNat := by
      simp [written, primitives, Primitive.toBytes]
    rw [meaning, hbytes, hbare, Bytes.ofNat_inj (UInt64.toNat_lt _) (UInt64.toNat_lt _),
      UInt64.toNat_inj, ← Int64.ofUInt64.injEq]
    exact Timestamp.toTicks_ofTicks_iff
  | list element ih =>
    rw [meaning, written_list, written_list, List.length_map, List.append_cancel_left_eq,
      List.flatMap_map, Bytes.flatMap_eq_flatMap_iff]
    · simp only [ih, Canonical]
    · intro part _
      exact length_written_meaning element part
  | _ => exact iff_of_true rfl trivial

example : Shape.bool.written (Shape.bool.meaning 2) = [1] ∧ ¬ Shape.bool.Canonical 2 := by decide

/-! ## Reading by way of bare values -/

theorem exists_of_replicate {α β : Type} {element : Decoder α} {bare : Decoder β} {f : β → α}
    {count : Nat} {c c' : Cursor} {elements : List α}
    (helement : ∀ {c c' : Cursor} {a : α}, element.run.run c = (.ok a, c') →
      ∃ b, bare.run.run c = (.ok b, c') ∧ a = f b)
    (h : (Decoder.replicate element count).run.run c = (.ok elements, c')) :
    ∃ parts, (Decoder.replicate bare count).run.run c = (.ok parts, c') ∧
      elements = parts.map f := by
  induction count generalizing c elements with
  | zero =>
    cases h
    exact ⟨[], rfl, rfl⟩
  | succ count ih =>
    obtain ⟨a, c₁, ha, h⟩ := Attempt.run_bind_ok h
    obtain ⟨others, c₂, hothers, h⟩ := Attempt.run_bind_ok h
    cases h
    obtain ⟨b, hb, rfl⟩ := helement ha
    obtain ⟨parts, hparts, rfl⟩ := ih hothers
    refine ⟨b :: parts, ?_, rfl⟩
    rw [Decoder.replicate, Attempt.run_bind, hb]
    dsimp only
    rw [Attempt.run_bind, hparts]
    rfl

/-- A value is read by reading a bare one and making the value of it. -/
theorem exists_bare_of_read {shape : Shape} {c c' : Cursor} {v : shape.Carrier}
    (h : shape.read.run.run c = (.ok v, c')) :
    ∃ b, shape.bare.read.run.run c = (.ok b, c') ∧ v = shape.meaning b := by
  induction shape generalizing c c' with
  | bool =>
    obtain ⟨byte, c₁, hbyte, hv⟩ := Attempt.run_bind_ok h
    cases hv
    exact ⟨byte, hbyte, rfl⟩
  | time =>
    obtain ⟨n, c₁, hn, hv⟩ := Attempt.run_bind_ok h
    cases hv
    refine ⟨n.toInt64, ?_, rfl⟩
    change (Decoder.uint64 >>= fun n => pure n.toInt64).run.run c = _
    rw [Attempt.run_bind, hn]
    rfl
  | list element ih =>
    obtain ⟨n, c₁, hn, helements⟩ := Attempt.run_bind_ok h
    obtain ⟨parts, hparts, hv⟩ := exists_of_replicate ih helements
    refine ⟨parts, ?_, hv⟩
    change (Decoder.uint16 >>= fun n => Decoder.replicate element.bare.read n.toNat).run.run c = _
    rw [Attempt.run_bind, hn]
    exact hparts
  | _ => exact ⟨v, h, rfl⟩

end Shape

/-! ## Several values -/

/-- A value as it stands on the wire, with its shape. -/
structure Spelling where
  shape : Shape
  bare : shape.bare.Carrier

namespace Spelling

/-- The value that is read. -/
def value (s : Spelling) : WireValue := ⟨s.shape, s.shape.meaning s.bare⟩

def Canonical (s : Spelling) : Prop := s.shape.Canonical s.bare

def primitives (s : Spelling) : List Primitive := s.shape.bare.primitives s.bare

/-- Reads what stands on the wire for values of the given shapes, one after another. -/
def readAll : List Shape → Decoder (List Spelling)
  | [] => return []
  | shape :: shapes => do
    let bare ← shape.bare.read
    let spellings ← readAll shapes
    return ⟨shape, bare⟩ :: spellings

theorem passes_readAll {shapes : List Shape} {c c' : Cursor} {spellings : List Spelling}
    (hshapes : ∀ shape ∈ shapes, shape.hasDuration = false)
    (h : (readAll shapes).run.run c = (.ok spellings, c')) :
    c.Passes (spellings.flatMap primitives) c' := by
  induction shapes generalizing c spellings with
  | nil =>
    cases h
    exact .nil _
  | cons shape shapes ih =>
    obtain ⟨bare, c₁, hbare, h⟩ := Attempt.run_bind_ok h
    obtain ⟨others, c₂, hothers, h⟩ := Attempt.run_bind_ok h
    cases h
    have hfirst := Shape.passes_read_bare (hshapes shape List.mem_cons_self) hbare
    rw [List.flatMap_cons]
    exact hfirst.append (ih (fun s hs => hshapes s (List.mem_cons_of_mem shape hs)) hothers)

theorem exists_of_readAll {shapes : List Shape} {c c' : Cursor} {values : List WireValue}
    (h : (WireValue.readAll shapes).run.run c = (.ok values, c')) :
    ∃ spellings, (readAll shapes).run.run c = (.ok spellings, c') ∧
      values = spellings.map value := by
  induction shapes generalizing c values with
  | nil =>
    cases h
    exact ⟨[], rfl, rfl⟩
  | cons shape shapes ih =>
    obtain ⟨v, c₁, hv, h⟩ := Attempt.run_bind_ok h
    obtain ⟨others, c₂, hothers, h⟩ := Attempt.run_bind_ok h
    cases h
    obtain ⟨bare, hbare, rfl⟩ := Shape.exists_bare_of_read hv
    obtain ⟨spellings, hspellings, rfl⟩ := ih hothers
    refine ⟨⟨shape, bare⟩ :: spellings, ?_, rfl⟩
    rw [readAll, Attempt.run_bind, hbare]
    dsimp only
    rw [Attempt.run_bind, hspellings]
    rfl

/-- The bytes that the value was read from. -/
def bytes (s : Spelling) : Bytes := s.shape.bare.written s.bare

/-- The bytes that are written for the value. -/
def rewritten (s : Spelling) : Bytes := s.shape.written (s.shape.meaning s.bare)

theorem flatMap_primitives (spellings : List Spelling) :
    (spellings.flatMap primitives).flatMap Primitive.toBytes = spellings.flatMap bytes := by
  rw [List.flatMap_assoc]
  rfl

theorem flatMap_primitives_value (spellings : List Spelling) :
    ((spellings.map value).flatMap WireValue.primitives).flatMap Primitive.toBytes =
      spellings.flatMap rewritten := by
  rw [List.flatMap_map, List.flatMap_assoc]
  rfl

theorem length_rewritten (s : Spelling) : s.rewritten.length = s.bytes.length :=
  s.shape.length_written_meaning s.bare

theorem length_flatMap_rewritten (spellings : List Spelling) :
    (spellings.flatMap rewritten).length = (spellings.flatMap bytes).length := by
  simp only [List.length_flatMap, length_rewritten]

/-- What is written for values that were read fits if there is room for what they were read from.
-/
theorem fit_of_passes {spellings : List Spelling} {c c' : Cursor}
    (h : c.Passes (spellings.flatMap primitives) c')
    (hroom : Packet.reserved + (spellings.flatMap bytes).length ≤ packetCapacity) :
    Primitive.Fit ((spellings.map value).flatMap WireValue.primitives) := by
  constructor
  · intro n hn
    apply h.count_lt
    rw [List.flatMap_map, List.mem_flatMap] at hn
    obtain ⟨s, hs, hn⟩ := hn
    exact List.mem_flatMap.2 ⟨s, hs, (s.shape.count_mem_primitives_meaning s.bare).1 hn⟩
  · rwa [flatMap_primitives_value, length_flatMap_rewritten]

end Spelling

namespace WireValue

/-- **What was read is written back.**  Writing the values to a new packet skips nothing and takes
as many bytes.  They are the bytes that were read, exactly if every truth value was read from the
byte `0` or `1` and no time from the least count of ticks. -/
theorem writeAll_readAll {shapes : List Shape} {payload : Bytes} {values : List WireValue}
    {c : Cursor} (hshapes : ∀ shape ∈ shapes, shape.hasDuration = false)
    (hread : (readAll shapes).run.run (.ofBytes payload) = (.ok values, c))
    (hroom : Packet.reserved + c.position ≤ packetCapacity) (header : UInt8) :
    ∃ spellings, (Spelling.readAll shapes).run.run (.ofBytes payload) = (.ok spellings, c) ∧
      values = spellings.map Spelling.value ∧
      let packet := Item.writeAll (values.map item) (.empty header)
      packet.fault = none ∧ packet.payload.length = c.position ∧
        (packet.payload = payload.take c.position ↔ ∀ s ∈ spellings, s.Canonical) := by
  obtain ⟨spellings, hspellings, rfl⟩ := Spelling.exists_of_readAll hread
  have hpasses := Spelling.passes_readAll hshapes hspellings
  have htaken : payload.take c.position = spellings.flatMap Spelling.bytes := by
    rw [hpasses.take_position, Spelling.flatMap_primitives]
  have hposition : c.position = (spellings.flatMap Spelling.bytes).length := by
    rw [hpasses.position, Spelling.flatMap_primitives]
    exact Nat.zero_add _
  rw [hposition] at hroom
  have hfit := Spelling.fit_of_passes hpasses hroom
  rw [← allPrimitives_map_item] at hfit
  refine ⟨spellings, hspellings, rfl, ?_⟩
  rw [Item.writeAll_of_fit header hfit, allPrimitives_map_item, Spelling.flatMap_primitives_value,
    htaken, hposition]
  refine ⟨rfl, Spelling.length_flatMap_rewritten spellings, ?_⟩
  rw [Bytes.flatMap_eq_flatMap_iff fun s _ => s.length_rewritten]
  exact forall₂_congr fun s _ => s.shape.written_meaning_iff s.bare

/-- Texts in lists in a list, a time before the epoch and a truth value, with a byte behind them. -/
theorem writeAll_readAll_nested :
    let shapes : List Shape := [.list (.list .text), .time, .bool]
    let payload : Bytes :=
      [0, 2, 0, 1, 0, 2, 0xc3, 0xa9, 0, 0, 255, 255, 255, 255, 255, 255, 255, 255, 1, 7]
    let values : List WireValue :=
      [⟨.list (.list .text), [["é"], []]⟩, ⟨.time, ⟨-100⟩⟩, ⟨.bool, true⟩]
    (∀ shape ∈ shapes, shape.hasDuration = false) ∧
      (readAll shapes).run.run (.ofBytes payload) = (.ok values, ⟨19, [7]⟩) ∧
      Packet.reserved + 19 ≤ packetCapacity ∧
      (Item.writeAll (values.map item) (.empty 0x39)).payload = payload.take 19 := by
  intro shapes payload values
  have hshapes : ∀ shape ∈ shapes, shape.hasDuration = false := by decide
  have hread : (readAll shapes).run.run (.ofBytes payload) = (.ok values, ⟨19, [7]⟩) := by
    with_unfolding_all rfl
  have hroom : Packet.reserved + 19 ≤ packetCapacity := by decide
  obtain ⟨spellings, hspellings, -, -, -, hiff⟩ := writeAll_readAll hshapes hread hroom 0x39
  have hspelled : (Spelling.readAll shapes).run.run (.ofBytes payload) =
      (.ok [⟨.list (.list .text), [["é"], []]⟩, ⟨.time, -1⟩, ⟨.bool, 1⟩], ⟨19, [7]⟩) := by
    with_unfolding_all rfl
  have hcanonical : ∀ s ∈ spellings, s.Canonical := by
    rw [hspelled] at hspellings
    cases hspellings
    simp [Spelling.Canonical, Shape.Canonical]
  exact ⟨hshapes, hread, hroom, hiff.2 hcanonical⟩

end WireValue

end Multiplayer
