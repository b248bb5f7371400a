import Multiplayer.Wire.Item

/-!
# Primitive writes

Everything that is written to a packet comes down to primitive writes: bytes as they are, and
counts.  A primitive write is made or skipped as a whole, and what it needs is known beforehand.

* `Primitive.fault?` says whether a write fits behind the bytes that were written before.
* `Primitive.fault_writeAll`: the fault of a packet is that of the first write that does not fit.
* `Primitive.writeAll_of_fits`: if all fit, the payload is all their bytes.
* `length_payload_writeAll_le`: a packet never holds more than it has room for.
* `Shape.write_eq_writeAll`, `Item.writeAll_eq`: values and messages are written as their
  primitive writes.
-/

namespace Multiplayer

/-- A write that is made or skipped as a whole. -/
inductive Primitive where
  | raw (bytes : Bytes)
  | count (n : Nat)
deriving DecidableEq, Repr

namespace Primitive

def toBytes : Primitive → Bytes
  | .raw bytes => bytes
  | .count n => Bytes.ofNat 2 n

theorem flatMap_counted (n : Nat) (bytes : Bytes) :
    [count n, raw bytes].flatMap toBytes = Bytes.ofNat 2 n ++ bytes := by
  simp [toBytes]

/-- Why some bytes do not fit behind `used` others, if they do not. -/
def overflow? (used length : Nat) : Option Packet.Fault :=
  let stop := Packet.reserved + used + length
  if stop ≤ packetCapacity then none else some (.overflow stop)

/-- Why the write is skipped behind `used` bytes of payload, if it is. -/
def fault? (used : Nat) : Primitive → Option Packet.Fault
  | .raw bytes => overflow? used bytes.length
  | .count n => if n < UInt16.size then overflow? used 2 else some (.length n)

def write (p : Packet) : Primitive → Packet
  | .raw bytes => p.append bytes
  | .count n => p.count n

/-! ## One write -/

theorem append_eq {p : Packet} (h : p.fault = none) (bytes : Bytes) :
    p.append bytes = match overflow? p.payload.length bytes.length with
      | none => { p with payload := p.payload ++ bytes }
      | some fault => { p with fault := some fault } := by
  have hsound : p.fault.isSome = false := by rw [h]; rfl
  simp only [Packet.append, hsound, Bool.false_eq_true, if_false, overflow?]
  split
  · rfl
  · rfl

theorem write_eq {p : Packet} (h : p.fault = none) (w : Primitive) :
    w.write p = match w.fault? p.payload.length with
      | none => { p with payload := p.payload ++ w.toBytes }
      | some fault => { p with fault := some fault } := by
  cases w with
  | raw bytes => exact append_eq h bytes
  | count n =>
    by_cases hn : n < UInt16.size
    · have happend := append_eq h (Bytes.ofNat 2 n)
      rw [Bytes.length_ofNat] at happend
      simp only [write, Packet.count, fault?, hn, if_true, toBytes]
      exact happend
    · simp only [write, Packet.count, fault?, hn, if_false, h, Option.none_or]

theorem write_of_fault {p : Packet} (h : p.fault.isSome) (w : Primitive) : w.write p = p := by
  cases w with
  | raw bytes => exact Packet.append_of_fault h bytes
  | count n =>
    obtain ⟨fault, hfault⟩ := Option.isSome_iff_exists.1 h
    simp only [write, Packet.count]
    split
    · exact Packet.append_of_fault h _
    · obtain ⟨header, payload, _⟩ := p
      cases hfault
      rfl

theorem write_withHeader (p : Packet) (w : Primitive) (header : UInt8) :
    w.write { p with header } = { w.write p with header } := by
  cases w with
  | raw bytes =>
    simp only [write, Packet.append]
    split
    · rfl
    · split
      · rfl
      · rfl
  | count n =>
    simp only [write, Packet.count, Packet.append]
    split
    · split
      · rfl
      · split
        · rfl
        · rfl
    · rfl

/-! ## Several writes -/

def writeAll (ws : List Primitive) (p : Packet) : Packet := ws.foldl write p

/-- The fault of the first write that does not fit, behind `used` bytes of payload. -/
def firstFault? : (used : Nat) → List Primitive → Option Packet.Fault
  | _, [] => none
  | used, w :: ws => (w.fault? used).or (firstFault? (used + w.toBytes.length) ws)

theorem writeAll_append (ws more : List Primitive) (p : Packet) :
    writeAll (ws ++ more) p = writeAll more (writeAll ws p) :=
  List.foldl_append

theorem writeAll_of_fault {p : Packet} (h : p.fault.isSome) (ws : List Primitive) :
    writeAll ws p = p := by
  induction ws with
  | nil => rfl
  | cons w ws ih =>
    change writeAll ws (w.write p) = p
    rw [write_of_fault h, ih]

theorem writeAll_withHeader (ws : List Primitive) (p : Packet) (header : UInt8) :
    writeAll ws { p with header } = { writeAll ws p with header } := by
  induction ws generalizing p with
  | nil => rfl
  | cons w ws ih =>
    change writeAll ws (w.write { p with header }) = { writeAll ws (w.write p) with header }
    rw [write_withHeader, ih]

/-- The fault of a packet is that of the first write that did not fit. -/
theorem fault_writeAll (ws : List Primitive) {p : Packet} (h : p.fault = none) :
    (writeAll ws p).fault = firstFault? p.payload.length ws := by
  induction ws generalizing p with
  | nil => exact h
  | cons w ws ih =>
    change (writeAll ws (w.write p)).fault = _
    rw [write_eq h, firstFault?]
    cases w.fault? p.payload.length with
    | none =>
      have hothers := ih (p := { p with payload := p.payload ++ w.toBytes }) h
      rwa [List.length_append] at hothers
    | some fault =>
      dsimp only
      rw [writeAll_of_fault rfl, Option.some_or]

theorem writeAll_of_fits {ws : List Primitive} {p : Packet} (h : p.fault = none)
    (hfits : firstFault? p.payload.length ws = none) :
    writeAll ws p = { p with payload := p.payload ++ ws.flatMap toBytes } := by
  induction ws generalizing p with
  | nil => simp [writeAll]
  | cons w ws ih =>
    obtain ⟨hfirst, hothers⟩ := Option.or_eq_none_iff.1 hfits
    rw [← List.length_append] at hothers
    have hrest := ih (p := { p with payload := p.payload ++ w.toBytes }) h hothers
    change writeAll ws (w.write p) = _
    rw [write_eq h, hfirst]
    rw [List.append_assoc] at hrest
    exact hrest

/-- Counts that are written have 16 bits. -/
theorem lt_of_firstFault?_eq_none {ws : List Primitive} {used n : Nat}
    (hfits : firstFault? used ws = none) (hmem : count n ∈ ws) : n < UInt16.size := by
  induction ws generalizing used with
  | nil => cases hmem
  | cons w ws ih =>
    obtain ⟨hfirst, hothers⟩ := Option.or_eq_none_iff.1 hfits
    rcases List.mem_cons.1 hmem with rfl | hmem
    · by_cases hn : n < UInt16.size
      · exact hn
      · rw [fault?, if_neg hn] at hfirst
        cases hfirst
    · exact ih hothers hmem

/-! ## What a packet has room for -/

theorem length_payload_write_le {p : Packet}
    (h : Packet.reserved + p.payload.length ≤ packetCapacity) (w : Primitive) :
    Packet.reserved + (w.write p).payload.length ≤ packetCapacity := by
  have happend (bytes : Bytes) :
      Packet.reserved + (p.append bytes).payload.length ≤ packetCapacity := by
    unfold Packet.append
    split
    · exact h
    · dsimp only
      split
      · rename_i hfits
        rw [List.length_append, ← Nat.add_assoc]
        exact hfits
      · exact h
  cases w with
  | raw bytes => exact happend bytes
  | count n =>
    simp only [Primitive.write, Packet.count]
    split
    · exact happend _
    · exact h

theorem length_payload_writeAll_le (ws : List Primitive) {p : Packet}
    (h : Packet.reserved + p.payload.length ≤ packetCapacity) :
    Packet.reserved + (writeAll ws p).payload.length ≤ packetCapacity := by
  induction ws generalizing p with
  | nil => exact h
  | cons w ws ih => exact ih (length_payload_write_le h w)

end Primitive

/-- A packet that holds no more than it has room for is encoded unless a write was skipped. -/
theorem Packet.encode_eq {p : Packet} (h : reserved + p.payload.length ≤ packetCapacity) :
    p.encode = match p.fault with
      | none => .ok (p.header :: Bytes.ofNat 2 p.payload.length ++ p.payload)
      | some fault => .error fault.toError := by
  have hcapacity : packetCapacity < UInt16.size := by decide
  have hlength : p.payload.length < UInt16.size := by omega
  unfold encode
  cases p.fault with
  | none => exact if_pos hlength
  | some fault => rfl

/-! ## Values -/

namespace Shape

/-- The primitive writes of a value: a text, a byte string and a list have their count in front. -/
def primitives : (shape : Shape) → shape.Carrier → List Primitive
  | .bool, b => [.raw (Bytes.ofNat 1 (if b then 1 else 0))]
  | .uint8, n => [.raw (Bytes.ofNat 1 n.toNat)]
  | .uint16, n => [.raw (Bytes.ofNat 2 n.toNat)]
  | .uint32, n | .float32, n => [.raw (Bytes.ofNat 4 n.toNat)]
  | .uint64, n | .float64, n => [.raw (Bytes.ofNat 8 n.toNat)]
  | .int8, n => [.raw (Bytes.ofNat 1 n.toUInt8.toNat)]
  | .int16, n => [.raw (Bytes.ofNat 2 n.toUInt16.toNat)]
  | .int32, n => [.raw (Bytes.ofNat 4 n.toUInt32.toNat)]
  | .int64, n => [.raw (Bytes.ofNat 8 n.toUInt64.toNat)]
  | .text, string =>
    let bytes := Utf8.encode string.toList
    [.count bytes.length, .raw bytes]
  | .bytes, string => [.count string.length, .raw string]
  | .time, t => [.raw (Bytes.ofNat 8 t.toTicks.toUInt64.toNat)]
  | .duration, d => [.raw (Bytes.ofNat 8 d.toSeconds.toNat)]
  | .list element, elements => .count elements.length :: elements.flatMap element.primitives

theorem foldl_write_eq {α : Type} {write : α → Packet → Packet} {primitives : α → List Primitive}
    (h : ∀ a p, write a p = Primitive.writeAll (primitives a) p) (elements : List α) (p : Packet) :
    elements.foldl (fun p element => write element p) p =
      Primitive.writeAll (elements.flatMap primitives) p := by
  induction elements generalizing p with
  | nil => rfl
  | cons a elements ih =>
    rw [List.foldl_cons, h, ih, List.flatMap_cons, Primitive.writeAll_append]

/-- A value is written as its primitive writes. -/
theorem write_eq_writeAll (shape : Shape) (v : shape.Carrier) (p : Packet) :
    shape.write v p = Primitive.writeAll (shape.primitives v) p := by
  induction shape generalizing p with
  | bool => cases v <;> rfl
  | list element ih =>
    change p.list element.write v = Primitive.writeAll (v.flatMap element.primitives)
      (p.count v.length)
    rw [Packet.list]
    split
    · rename_i hfault
      rw [Primitive.writeAll_of_fault hfault]
    · exact foldl_write_eq ih v _
  | _ => rfl

end Shape

/-! ## Messages -/

namespace Item

mutual

/-- The primitive writes of an item.  An embedded message is one write of what its own packet
holds. -/
def primitives : Item → List Primitive
  | .value shape v => shape.primitives v
  | .raw bytes => [.raw bytes]
  | .list elements => .count elements.length :: allPrimitives elements
  | .embedded message => [.raw (writeAll message .empty).payload]
  | .header _ => []

def allPrimitives : List Item → List Primitive
  | [] => []
  | item :: items => primitives item ++ allPrimitives items

end

mutual

/-- An item is written as its primitive writes, and may set the header. -/
theorem write_eq (item : Item) (p : Packet) :
    ∃ header, item.write p = { Primitive.writeAll item.primitives p with header } := by
  match item with
  | .value shape v => exact ⟨_, shape.write_eq_writeAll v p⟩
  | .raw bytes => exact ⟨_, rfl⟩
  | .embedded message => exact ⟨_, rfl⟩
  | .header byte => exact ⟨byte, rfl⟩
  | .list elements =>
    obtain ⟨header, helements⟩ := writeAll_eq elements (p.count elements.length)
    simp only [write, primitives]
    split
    · rename_i hfault
      refine ⟨(p.count elements.length).header, ?_⟩
      change _ = { Primitive.writeAll (allPrimitives elements) (p.count elements.length) with
        header := (p.count elements.length).header }
      rw [Primitive.writeAll_of_fault hfault]
    · exact ⟨header, helements⟩

/-- A message is written as its primitive writes, and may set the header. -/
theorem writeAll_eq (items : List Item) (p : Packet) :
    ∃ header, writeAll items p = { Primitive.writeAll (allPrimitives items) p with header } := by
  match items with
  | [] => exact ⟨_, rfl⟩
  | item :: items =>
    obtain ⟨first, hfirst⟩ := write_eq item p
    obtain ⟨header, hothers⟩ := writeAll_eq items (item.write p)
    refine ⟨header, ?_⟩
    rw [writeAll, hothers, hfirst, Primitive.writeAll_withHeader, allPrimitives,
      Primitive.writeAll_append]

end

theorem fault_writeAll (message : List Item) (header : UInt8) :
    (writeAll message (.empty header)).fault =
      Primitive.firstFault? 0 (allPrimitives message) := by
  obtain ⟨set, hwritten⟩ := writeAll_eq message (.empty header)
  rw [hwritten]
  exact Primitive.fault_writeAll (allPrimitives message) rfl

theorem length_payload_writeAll_le (message : List Item) (header : UInt8) :
    Packet.reserved + (writeAll message (.empty header)).payload.length ≤ packetCapacity := by
  obtain ⟨set, hwritten⟩ := writeAll_eq message (.empty header)
  have hempty : Packet.reserved + 0 ≤ packetCapacity := by decide
  rw [hwritten]
  exact Primitive.length_payload_writeAll_le (p := .empty header) (allPrimitives message) hempty

end Item

end Multiplayer
