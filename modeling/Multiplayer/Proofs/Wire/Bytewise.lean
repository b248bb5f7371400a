import Multiplayer.Proofs.Wire.Filling

/-!
# Byte strings as lists of bytes

A byte string is written behind its length in one piece, and a list of bytes behind its count byte
by byte.  On the wire the two are the same.  A list can stop to fit between two of its bytes, where
a byte string is skipped as a whole; but then neither of the packets is ever encoded.

* `Primitive.firstFault?_bytewise`: where bytes that are written one by one stop to fit.
* `Packet.TakesCount` and `Packet.TakesSized`: whether there is room for the count, and for what is
  behind it too.
* `Packet.sized_and_list_of_takesSized`, `Packet.exists_faults`: what becomes of both.
* `Item.encode_writeAll_of_fault`: a packet reports its first fault, whatever is written to it.
* `Packet.sized_agrees_list` is the result.
-/

namespace Multiplayer

/-! ## Bytes one by one -/

theorem Bytes.ofNat_one (b : UInt8) : ofNat 1 b.toNat = [b] := by
  simpa [toNat] using ofNat_toNat [b]

namespace Primitive

/-- Bytes, each of them a write of its own. -/
def bytewise (bytes : Bytes) : List Primitive := bytes.map fun b => raw [b]

theorem flatMap_bytewise (bytes : Bytes) : (bytewise bytes).flatMap toBytes = bytes := by
  induction bytes with
  | nil => rfl
  | cons b bytes ih =>
    change b :: (bytewise bytes).flatMap toBytes = b :: bytes
    rw [ih]

-- By induction on the bytes, behind ever more of them.  The first that is skipped is the one behind
-- a full packet.
/-- Bytes that are written one by one fit if there is room for all of them.  Otherwise they fill the
packet, and the next one is one byte too many. -/
theorem firstFault?_bytewise {used : Nat} (h : Packet.reserved + used ≤ packetCapacity)
    (bytes : Bytes) :
    firstFault? used (bytewise bytes) =
      if Packet.reserved + used + bytes.length ≤ packetCapacity then none
      else some (.overflow (packetCapacity + 1)) := by
  induction bytes generalizing used with
  | nil => exact (if_pos h).symm
  | cons b bytes ih =>
    change (overflow? used 1).or (firstFault? (used + 1) (bytewise bytes)) = _
    rw [List.length_cons]
    by_cases hroom : Packet.reserved + used + 1 ≤ packetCapacity
    · rw [overflow?_eq_none_iff.2 hroom, Option.none_or, ih hroom]
      congr 2
      omega
    · have hfull : Packet.reserved + used + 1 = packetCapacity + 1 := by omega
      rw [overflow?, if_neg hroom, Option.some_or, hfull, if_neg (by omega)]

end Primitive

/-! ## The count and what is behind it -/

namespace Packet

/-- A packet has room for a count of elements. -/
def TakesCount (p : Packet) (n : Nat) : Prop :=
  p.fault = none ∧ n < UInt16.size ∧ reserved + p.payload.length + 2 ≤ packetCapacity

/-- A packet has room for a byte string behind its length. -/
def TakesSized (p : Packet) (length : Nat) : Prop :=
  p.fault = none ∧ length < UInt16.size ∧
    reserved + p.payload.length + 2 + length ≤ packetCapacity

theorem TakesSized.takesCount {p : Packet} {length : Nat} (h : p.TakesSized length) :
    p.TakesCount length :=
  ⟨h.1, h.2.1, Nat.le_of_add_right_le h.2.2⟩

theorem count_eq {p : Packet} {n : Nat} (h : p.TakesCount n) :
    p.count n = { p with payload := p.payload ++ Bytes.ofNat 2 n } := by
  obtain ⟨hfault, hn, hroom⟩ := h
  have hfits : Primitive.overflow? p.payload.length 2 = none :=
    Primitive.overflow?_eq_none_iff.2 hroom
  have hwritten := Primitive.write_eq hfault (.count n)
  rw [Primitive.fault?, if_pos hn, hfits] at hwritten
  exact hwritten

theorem fault_count {p : Packet} {n : Nat} (h : p.TakesCount n) : (p.count n).fault = none := by
  rw [count_eq h]
  exact h.1

theorem length_payload_count {p : Packet} {n : Nat} (h : p.TakesCount n) :
    (p.count n).payload.length = p.payload.length + 2 := by
  rw [count_eq h, List.length_append, Bytes.length_ofNat]

theorem exists_fault_count {p : Packet} {n : Nat} (h : ¬ p.TakesCount n) :
    ∃ fault, (p.count n).fault = some fault := by
  rw [← Option.ne_none_iff_exists']
  intro hnone
  cases hfault : p.fault with
  | some fault =>
    have hkept := Primitive.write_of_fault (p := p) (by simp [hfault]) (.count n)
    rw [show p.count n = p from hkept, hfault] at hnone
    cases hnone
  | none =>
    have hfirst := Primitive.fault_writeAll [.count n] hfault
    rw [show (Primitive.writeAll [.count n] p).fault = none from hnone] at hfirst
    obtain ⟨hcount, -⟩ := Option.or_eq_none_iff.1 hfirst.symm
    obtain ⟨hn, hroom⟩ := Primitive.fault?_eq_none_iff.1 hcount
    rw [Primitive.length_toBytes_count] at hroom
    exact h ⟨hfault, hn n rfl, hroom⟩

/-- A list of bytes is its count and then its bytes one by one. -/
theorem write_list_uint8 (p : Packet) (bytes : Bytes) :
    (Shape.list .uint8).write bytes p =
      Primitive.writeAll (Primitive.bytewise bytes) (p.count bytes.length) := by
  have hbytes : bytes.flatMap (Shape.primitives .uint8) = Primitive.bytewise bytes := by
    induction bytes with
    | nil => rfl
    | cons b bytes ih =>
      change .raw (Bytes.ofNat 1 b.toNat) :: bytes.flatMap (Shape.primitives .uint8) = _
      rw [ih, Bytes.ofNat_one]
      rfl
  rw [Shape.write_eq_writeAll]
  change Primitive.writeAll (bytes.flatMap (Shape.primitives .uint8)) (p.count bytes.length) = _
  rw [hbytes]

/-- Behind a count that was skipped nothing is written, in one piece or byte by byte. -/
theorem sized_and_list_of_fault {p : Packet} {bytes : Bytes}
    (h : (p.count bytes.length).fault.isSome) :
    p.sized bytes = p.count bytes.length ∧
      (Shape.list .uint8).write bytes p = p.count bytes.length := by
  rw [write_list_uint8]
  exact ⟨append_of_fault h bytes, Primitive.writeAll_of_fault h _⟩

/-- Where there is room, the length and the bytes are written both ways. -/
theorem sized_and_list_of_takesSized {p : Packet} {bytes : Bytes}
    (h : p.TakesSized bytes.length) :
    p.sized bytes = { p with payload := p.payload ++ Bytes.ofNat 2 bytes.length ++ bytes } ∧
      (Shape.list .uint8).write bytes p = p.sized bytes := by
  have hroom : Packet.reserved + (p.payload.length + 2) + bytes.length ≤ packetCapacity := h.2.2
  have hcount := fault_count h.takesCount
  have hused := length_payload_count h.takesCount
  have hwhole : p.sized bytes =
      { p.count bytes.length with payload := (p.count bytes.length).payload ++ bytes } := by
    rw [sized, Primitive.append_eq hcount, hused, Primitive.overflow?_eq_none_iff.2 hroom]
  have hfits : Primitive.firstFault? (p.payload.length + 2) (Primitive.bytewise bytes) = none := by
    rw [Primitive.firstFault?_bytewise h.takesCount.2.2, if_pos hroom]
  rw [← hused] at hfits
  constructor
  · rw [hwhole, count_eq h.takesCount]
  · rw [write_list_uint8, Primitive.writeAll_of_fits hcount hfits, Primitive.flatMap_bytewise,
      hwhole]

/-- Where there is room for the length only, the byte string is skipped as a whole, and of the
bytes one by one the first that is too many. -/
theorem fault_sized_and_list {p : Packet} {bytes : Bytes} (h : p.TakesCount bytes.length)
    (hroom : ¬ p.TakesSized bytes.length) :
    (p.sized bytes).fault = some (.overflow (reserved + p.payload.length + 2 + bytes.length)) ∧
      ((Shape.list .uint8).write bytes p).fault = some (.overflow (packetCapacity + 1)) := by
  have hfull : ¬ reserved + (p.payload.length + 2) + bytes.length ≤ packetCapacity :=
    fun hle => hroom ⟨h.1, h.2.1, hle⟩
  have hcount := fault_count h
  constructor
  · rw [sized, Primitive.append_eq hcount, length_payload_count h, Primitive.overflow?,
      if_neg hfull]
    rfl
  · rw [write_list_uint8, Primitive.fault_writeAll _ hcount, length_payload_count h,
      Primitive.firstFault?_bytewise h.2.2, if_neg hfull]

/-- If there is no room for the whole, both ways have a fault.  It is the same one if the count is
skipped already. -/
theorem exists_faults {p : Packet} {bytes : Bytes} (h : ¬ p.TakesSized bytes.length) :
    ∃ fault fault', (p.sized bytes).fault = some fault ∧
      ((Shape.list .uint8).write bytes p).fault = some fault' ∧
      (fault = fault' ∨
        fault = .overflow (reserved + p.payload.length + 2 + bytes.length) ∧
          fault' = .overflow (packetCapacity + 1)) ∧
      (¬ p.TakesCount bytes.length → fault = fault') := by
  by_cases hcount : p.TakesCount bytes.length
  · obtain ⟨hwhole, hbytewise⟩ := fault_sized_and_list hcount h
    exact ⟨_, _, hwhole, hbytewise, .inr ⟨rfl, rfl⟩, fun hnot => absurd hcount hnot⟩
  · obtain ⟨fault, hfault⟩ := exists_fault_count hcount
    have hskips : (p.count bytes.length).fault.isSome := by simp [hfault]
    obtain ⟨hwhole, hbytewise⟩ := sized_and_list_of_fault hskips
    exact ⟨fault, fault, hwhole ▸ hfault, hbytewise ▸ hfault, .inl rfl, fun _ => rfl⟩

theorem fault_eq_none_iff (p : Packet) (bytes : Bytes) :
    ((p.sized bytes).fault = none ↔ p.TakesSized bytes.length) ∧
      (((Shape.list .uint8).write bytes p).fault = none ↔ p.TakesSized bytes.length) := by
  by_cases h : p.TakesSized bytes.length
  · obtain ⟨hwhole, hsame⟩ := sized_and_list_of_takesSized h
    have hfault : (p.sized bytes).fault = none := by
      rw [hwhole]
      exact h.1
    rw [hsame]
    exact ⟨iff_of_true hfault h, iff_of_true hfault h⟩
  · obtain ⟨fault, fault', hwhole, hbytewise, -⟩ := exists_faults h
    rw [hwhole, hbytewise]
    exact ⟨iff_of_false (Option.some_ne_none _) h, iff_of_false (Option.some_ne_none _) h⟩

end Packet

/-! ## What is reported -/

/-- Nothing takes the fault of a packet back. -/
theorem Item.encode_writeAll_of_fault {p : Packet} {fault : Packet.Fault}
    (h : p.fault = some fault) (later : List Item) :
    (writeAll later p).encode = .error fault.toError := by
  have hskipped : Primitive.writeAll (allPrimitives later) p = p :=
    Primitive.writeAll_of_fault (by simp [h]) _
  obtain ⟨header, hwritten⟩ := writeAll_eq later p
  rw [hwritten, hskipped]
  simp [Packet.encode, h]

namespace Packet

/-- **A byte string is as good as a list of bytes.**  The two are written to a packet or not under
the same condition, and if they are, the packets are the same.  If not, both packets report an error
from then on, whatever is written to them later. -/
theorem sized_agrees_list (p : Packet) (bytes : Bytes) :
    let whole := p.sized bytes
    let bytewise := (Shape.list .uint8).write bytes p
    ((whole.fault = none ↔ p.TakesSized bytes.length) ∧
      (bytewise.fault = none ↔ p.TakesSized bytes.length)) ∧
    (p.TakesSized bytes.length →
      whole = { p with payload := p.payload ++ Bytes.ofNat 2 bytes.length ++ bytes } ∧
      bytewise = whole) ∧
    (¬ p.TakesSized bytes.length → ∃ e e' : WireError,
      (∀ later, (Item.writeAll later whole).encode = .error e) ∧
      (∀ later, (Item.writeAll later bytewise).encode = .error e') ∧
      (e = e' ∨ e = .overflow (reserved + p.payload.length + 2 + bytes.length) ∧
        e' = .overflow (packetCapacity + 1)) ∧
      (p.fault ≠ none ∨ UInt16.size ≤ bytes.length ∨
        packetCapacity < reserved + p.payload.length + 2 → e = e')) := by
  refine ⟨fault_eq_none_iff p bytes, sized_and_list_of_takesSized, fun h => ?_⟩
  obtain ⟨fault, fault', hwhole, hbytewise, hfaults, hsame⟩ := exists_faults h
  refine ⟨fault.toError, fault'.toError, Item.encode_writeAll_of_fault hwhole,
    Item.encode_writeAll_of_fault hbytewise, ?_, fun hskipped => ?_⟩
  · rcases hfaults with rfl | ⟨rfl, rfl⟩
    · exact .inl rfl
    · exact .inr ⟨rfl, rfl⟩
  · refine congrArg Packet.Fault.toError (hsame fun ⟨hfault, hlength, hroom⟩ => ?_)
    rcases hskipped with hfaulted | hlong | hfull
    · exact hfaulted hfault
    · exact absurd hlength (Nat.not_lt.2 hlong)
    · exact absurd hroom (Nat.not_le.2 hfull)

end Packet

end Multiplayer
