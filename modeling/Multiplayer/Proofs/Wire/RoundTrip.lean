import Multiplayer.Proofs.Time.Ticks
import Multiplayer.Proofs.Wire.Primitive
import Multiplayer.Proofs.Wire.Reads

/-!
# Reading back what was written

A list of values of any shapes, written one after another, is read back from the payload by the
list of their shapes, whatever stands behind the payload.

* `Shape.Exact`: the values that the wire carries without loss.
* `Shape.reads`: one value, by induction on its shape.
* `WireValue.readAll_writeAll` is the result.
-/

namespace Multiplayer

/-! ## One value -/

/-- The wire carries the value without loss.  Times have to be whole ticks; durations are rounded
to binary64. -/
def Shape.Exact : (shape : Shape) → shape.Carrier → Prop
  | .time, t => t.OnTick
  | .duration, _ => False
  | .list element, elements => ∀ v ∈ elements, element.Exact v
  | _, _ => True

namespace Shape

-- The count of a list is the first of its writes, those of its elements are among the others.
theorem reads {shape : Shape} {v : shape.Carrier} (hexact : shape.Exact v)
    (hcounts : ∀ n, .count n ∈ shape.primitives v → n < UInt16.size) :
    Decoder.Reads shape.read ((shape.primitives v).flatMap Primitive.toBytes) v := by
  induction shape with
  | bool =>
    have hbyte := Decoder.reads_uint8 (if v then 1 else 0)
    cases v with
    | false => exact hbyte.bind_pure rfl
    | true => exact hbyte.bind_pure rfl
  | uint8 => exact Decoder.reads_uint8 v
  | uint16 => exact Decoder.reads_uint16 v
  | uint32 => exact Decoder.reads_uint32 v
  | uint64 => exact Decoder.reads_uint64 v
  | int8 =>
    refine (Decoder.reads_uint8 v.toUInt8).bind_pure ?_
    rw [Int8.toInt8_toUInt8]
  | int16 =>
    refine (Decoder.reads_uint16 v.toUInt16).bind_pure ?_
    rw [Int16.toInt16_toUInt16]
  | int32 =>
    refine (Decoder.reads_uint32 v.toUInt32).bind_pure ?_
    rw [Int32.toInt32_toUInt32]
  | int64 =>
    refine (Decoder.reads_uint64 v.toUInt64).bind_pure ?_
    rw [Int64.toInt64_toUInt64]
  | float32 => exact Decoder.reads_uint32 v
  | float64 => exact Decoder.reads_uint64 v
  | text =>
    have hlength := hcounts _ List.mem_cons_self
    have htext := Decoder.reads_text hlength
    rwa [← Primitive.flatMap_counted] at htext
  | bytes =>
    have hlength := hcounts _ List.mem_cons_self
    have hsized := Decoder.reads_sized hlength
    rwa [← Primitive.flatMap_counted] at hsized
  | time =>
    refine (Decoder.reads_uint64 v.toTicks.toUInt64).bind_pure ?_
    rw [Int64.toInt64_toUInt64, Timestamp.ofTicks_toTicks hexact]
  | duration => exact hexact.elim
  | list element ih =>
    have hcount := hcounts _ List.mem_cons_self
    have helements : ∀ e ∈ v, Decoder.Reads element.read
        ((element.primitives e).flatMap Primitive.toBytes) e := by
      intro e he
      refine ih (hexact e he) fun n hn => hcounts n ?_
      exact List.mem_cons_of_mem _ (List.mem_flatMap.2 ⟨e, he, hn⟩)
    have hlist := Decoder.reads_list hcount helements
    rwa [← List.flatMap_assoc] at hlist

end Shape

/-! ## Several values -/

/-- A value that can stand on the wire, with its shape. -/
structure WireValue where
  shape : Shape
  value : shape.Carrier

namespace WireValue

def Exact (v : WireValue) : Prop := v.shape.Exact v.value

/-- The value as an item of a message. -/
def item (v : WireValue) : Item := .value v.shape v.value

def primitives (v : WireValue) : List Primitive := v.shape.primitives v.value

/-- Reads values of the given shapes, one after another. -/
def readAll : List Shape → Decoder (List WireValue)
  | [] => return []
  | shape :: shapes => do
    let value ← shape.read
    let values ← readAll shapes
    return ⟨shape, value⟩ :: values

theorem allPrimitives_map_item (values : List WireValue) :
    Item.allPrimitives (values.map item) = values.flatMap primitives := by
  induction values with
  | nil => rfl
  | cons v values ih =>
    rw [List.map_cons, Item.allPrimitives, ih]
    rfl

theorem reads_readAll {values : List WireValue} (hexact : ∀ v ∈ values, v.Exact)
    (hcounts : ∀ n, .count n ∈ values.flatMap primitives → n < UInt16.size) :
    Decoder.Reads (readAll (values.map shape))
      ((values.flatMap primitives).flatMap Primitive.toBytes) values := by
  induction values with
  | nil => exact Decoder.Reads.pure []
  | cons v values ih =>
    rw [List.flatMap_cons] at hcounts ⊢
    have hfirst := Shape.reads (hexact v List.mem_cons_self) fun n hn =>
      hcounts n (List.mem_append_left _ hn)
    have hothers := ih (fun w hw => hexact w (List.mem_cons_of_mem v hw)) fun n hn =>
      hcounts n (List.mem_append_right _ hn)
    rw [List.flatMap_append]
    exact hfirst.bind (hothers.bind_pure rfl)

/-- **What was written is read back.**  Values that the wire carries without loss are written to a
new packet, and nothing is skipped.  Then reading their shapes in order from the payload, with
anything behind it, gives these values, and the cursor stands at the end of the payload. -/
theorem readAll_writeAll {values : List WireValue} {header : UInt8}
    (hexact : ∀ v ∈ values, v.Exact)
    (hfault : (Item.writeAll (values.map item) (.empty header)).fault = none) (suffix : Bytes) :
    let payload := (Item.writeAll (values.map item) (.empty header)).payload
    (readAll (values.map shape)).run.run (.ofBytes (payload ++ suffix)) =
      (.ok values, ⟨payload.length, suffix⟩) := by
  obtain ⟨set, hwritten⟩ := Item.writeAll_eq (values.map item) (.empty header)
  rw [allPrimitives_map_item] at hwritten
  rw [hwritten] at hfault
  have hfits : Primitive.firstFault? 0 (values.flatMap primitives) = none :=
    (Primitive.fault_writeAll (values.flatMap primitives) rfl).symm.trans hfault
  have hpacket := Primitive.writeAll_of_fits (p := .empty header) rfl hfits
  have hpayload : (Item.writeAll (values.map item) (.empty header)).payload =
      (values.flatMap primitives).flatMap Primitive.toBytes := by
    rw [hwritten, hpacket]
    rfl
  have hreads := reads_readAll hexact fun n hn => Primitive.lt_of_firstFault?_eq_none hfits hn
  dsimp only
  rw [hpayload, Cursor.ofBytes, hreads, Nat.zero_add]

/-- Texts in lists in a list, the least number of 64 bits, a time before the epoch and a
non-number. -/
def assorted : List WireValue :=
  [⟨.list (.list .text), [["\u30eb", ""], [], ["a"]]⟩, ⟨.int64, Int64.minValue⟩,
    ⟨.time, ⟨-86400000000500⟩⟩, ⟨.bool, true⟩, ⟨.float32, 0x7fc00001⟩, ⟨.bytes, [255, 0]⟩]

theorem exact_assorted : ∀ v ∈ assorted, v.Exact := by
  have htime : Timestamp.OnTick ⟨-86400000000500⟩ :=
    ⟨-864000000005, by decide, by decide, by decide⟩
  intro v hv
  simp only [assorted, List.mem_cons, List.not_mem_nil, or_false] at hv
  rcases hv with rfl | rfl | rfl | rfl | rfl | rfl
  · intro texts _ text _
    trivial
  · trivial
  · exact htime
  · trivial
  · trivial
  · trivial

theorem readAll_writeAll_assorted :
    (∀ v ∈ assorted, v.Exact) ∧ (Item.writeAll (assorted.map item) (.empty 0x39)).fault = none ∧
      (readAll (assorted.map shape)).run.run
          (.ofBytes ((Item.writeAll (assorted.map item) (.empty 0x39)).payload ++ [1, 2])) =
        (.ok assorted,
          ⟨(Item.writeAll (assorted.map item) (.empty 0x39)).payload.length, [1, 2]⟩) := by
  have hfault : (Item.writeAll (assorted.map item) (.empty 0x39)).fault = none := by decide
  exact ⟨exact_assorted, hfault, readAll_writeAll exact_assorted hfault [1, 2]⟩

end WireValue

end Multiplayer
