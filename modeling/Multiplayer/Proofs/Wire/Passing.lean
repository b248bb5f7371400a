import Multiplayer.Proofs.Text.Utf8
import Multiplayer.Proofs.Wire.Primitive

/-!
# What a decoder has gone over

When a decoder has given a value, the bytes that the cursor has gone over are those that would be
written for the value: nothing else is accepted in their place.

* `Cursor.Passes`: a cursor goes over the bytes of some writes.
* `Decoder.passes_uint8` and its like: numbers of a fixed width.
* `Decoder.passes_text`, `Decoder.passes_list`: a counted text and a counted list.
-/

namespace Multiplayer

/-- The cursor goes over the bytes of the writes, whose counts have 16 bits. -/
structure Cursor.Passes (c : Cursor) (ws : List Primitive) (c' : Cursor) : Prop where
  rest : c.rest = ws.flatMap Primitive.toBytes ++ c'.rest
  position : c'.position = c.position + (ws.flatMap Primitive.toBytes).length
  count_lt : ∀ n, .count n ∈ ws → n < UInt16.size

namespace Cursor.Passes

theorem nil (c : Cursor) : c.Passes [] c := ⟨rfl, rfl, nofun⟩

theorem append {c c' c'' : Cursor} {ws more : List Primitive} (h : c.Passes ws c')
    (hmore : c'.Passes more c'') : c.Passes (ws ++ more) c'' where
  rest := by rw [h.rest, hmore.rest, List.flatMap_append, List.append_assoc]
  position := by
    rw [hmore.position, h.position, List.flatMap_append, List.length_append, Nat.add_assoc]
  count_lt n hn := by
    rcases List.mem_append.1 hn with hn | hn
    · exact h.count_lt n hn
    · exact hmore.count_lt n hn

/-- The bytes that the cursor has gone over since the start of a payload. -/
theorem take_position {payload : Bytes} {c : Cursor} {ws : List Primitive}
    (h : (Cursor.ofBytes payload).Passes ws c) :
    payload.take c.position = ws.flatMap Primitive.toBytes := by
  have hrest : payload = ws.flatMap Primitive.toBytes ++ c.rest := h.rest
  have hposition : c.position = (ws.flatMap Primitive.toBytes).length :=
    h.position.trans (Nat.zero_add _)
  rw [hrest, hposition, List.take_left]

end Cursor.Passes

namespace Decoder

variable {α : Type} {c c' : Cursor}

/-! ## Fixed widths -/

theorem passes_take {n : Nat} {bytes : Bytes} (h : (take n).run.run c = (.ok bytes, c')) :
    c.Passes [.raw bytes] c' ∧ bytes.length = n := by
  obtain ⟨hrest, hlength, hposition⟩ := take_run_ok h
  refine ⟨⟨?_, ?_, ?_⟩, hlength⟩
  · rw [hrest]
    simp [Primitive.toBytes]
  · rw [hposition, ← hlength]
    simp [Primitive.toBytes]
  · simp

theorem passes_word {width n : Nat} (h : (word width).run.run c = (.ok n, c')) :
    c.Passes [.raw (Bytes.ofNat width n)] c' ∧ n < Nat.pow 256 width := by
  obtain ⟨digits, c₁, hdigits, hn⟩ := Attempt.run_bind_ok h
  obtain ⟨hpasses, rfl⟩ := passes_take hdigits
  cases hn
  rw [Bytes.ofNat_toNat]
  exact ⟨hpasses, Bytes.toNat_lt digits⟩

/-- A number that keeps the value of its digits. -/
theorem passes_number (width : Nat) {ofNat : Nat → α} {toNat : α → Nat}
    (hkept : ∀ n, n < Nat.pow 256 width → toNat (ofNat n) = n) {a : α}
    (h : (do return ofNat (← word width) : Decoder α).run.run c = (.ok a, c')) :
    c.Passes [.raw (Bytes.ofNat width (toNat a))] c' := by
  obtain ⟨n, c₁, hn, ha⟩ := Attempt.run_bind_ok h
  obtain ⟨hpasses, hlt⟩ := passes_word hn
  cases ha
  rwa [hkept n hlt]

theorem passes_uint8 {n : UInt8} (h : uint8.run.run c = (.ok n, c')) :
    c.Passes [.raw (Bytes.ofNat 1 n.toNat)] c' :=
  passes_number 1 (fun _ hlt => UInt8.toNat_ofNat_of_lt' hlt) h

theorem passes_uint16 {n : UInt16} (h : uint16.run.run c = (.ok n, c')) :
    c.Passes [.raw (Bytes.ofNat 2 n.toNat)] c' :=
  passes_number 2 (fun _ hlt => UInt16.toNat_ofNat_of_lt' hlt) h

theorem passes_uint32 {n : UInt32} (h : uint32.run.run c = (.ok n, c')) :
    c.Passes [.raw (Bytes.ofNat 4 n.toNat)] c' :=
  passes_number 4 (fun _ hlt => UInt32.toNat_ofNat_of_lt' hlt) h

theorem passes_uint64 {n : UInt64} (h : uint64.run.run c = (.ok n, c')) :
    c.Passes [.raw (Bytes.ofNat 8 n.toNat)] c' :=
  passes_number 8 (fun _ hlt => UInt64.toNat_ofNat_of_lt' hlt) h

/-! ## Counted strings and lists -/

theorem passes_count {n : UInt16} (h : uint16.run.run c = (.ok n, c')) :
    c.Passes [.count n.toNat] c' := by
  have hpasses := passes_uint16 h
  refine ⟨hpasses.rest, hpasses.position, fun count hcount => ?_⟩
  obtain rfl : count = n.toNat := by simpa using hcount
  exact n.toNat_lt

theorem passes_sized {bytes : Bytes} (h : sized.run.run c = (.ok bytes, c')) :
    c.Passes [.count bytes.length, .raw bytes] c' := by
  obtain ⟨n, c₁, hn, hbytes⟩ := Attempt.run_bind_ok h
  obtain ⟨hpasses, hlength⟩ := passes_take hbytes
  rw [hlength]
  exact (passes_count hn).append hpasses

/-- A text that is accepted is spelled by its UTF-8 form. -/
theorem passes_text {string : String} (h : text.run.run c = (.ok string, c')) :
    c.Passes [.count (Utf8.encode string.toList).length, .raw (Utf8.encode string.toList)] c' := by
  obtain ⟨bytes, c₁, hbytes, hstring⟩ := Attempt.run_bind_ok h
  have hpasses := passes_sized hbytes
  cases hdecode : Utf8.decode bytes with
  | error fault =>
    rw [hdecode] at hstring
    cases hstring
  | ok text =>
    rw [hdecode] at hstring
    cases hstring
    rwa [String.toList_ofList, Utf8.encode_of_decode hdecode]

theorem passes_replicate {element : Decoder α} {writes : α → List Primitive} {count : Nat}
    {elements : List α}
    (helement : ∀ {c c' a}, element.run.run c = (.ok a, c') → c.Passes (writes a) c')
    (h : (replicate element count).run.run c = (.ok elements, c')) :
    c.Passes (elements.flatMap writes) c' ∧ elements.length = count := by
  induction count generalizing c elements with
  | zero =>
    cases h
    exact ⟨.nil _, rfl⟩
  | succ count ih =>
    obtain ⟨first, c₁, hfirst, h⟩ := Attempt.run_bind_ok h
    obtain ⟨others, c₂, hothers, h⟩ := Attempt.run_bind_ok h
    cases h
    obtain ⟨hpasses, hlength⟩ := ih hothers
    rw [List.flatMap_cons, List.length_cons, hlength]
    exact ⟨(helement hfirst).append hpasses, rfl⟩

theorem passes_list {element : Decoder α} {writes : α → List Primitive} {elements : List α}
    (helement : ∀ {c c' a}, element.run.run c = (.ok a, c') → c.Passes (writes a) c')
    (h : (list element).run.run c = (.ok elements, c')) :
    c.Passes (.count elements.length :: elements.flatMap writes) c' := by
  obtain ⟨n, c₁, hn, helements⟩ := Attempt.run_bind_ok h
  obtain ⟨hpasses, hlength⟩ := passes_replicate helement helements
  rw [hlength]
  exact (passes_count hn).append hpasses

end Decoder

end Multiplayer
