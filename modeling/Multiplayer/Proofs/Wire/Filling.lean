import Multiplayer.Proofs.Wire.Primitive

/-!
# How a packet fills up

Either all writes of a message fit into its packet, or there is a first one that does not.  From
that one on nothing is added to the packet, however small it is, and the packet is encoded to the
error of that write.

* `Primitive.Fit`: the counts have 16 bits, and there is room for all bytes.
* `Primitive.fit_iff`: the writes fit exactly if none of them is skipped.
* `Primitive.writeAll_of_first`: a packet after a write that does not fit.
* `Item.encode_writeAll` is the result.
-/

namespace Multiplayer

namespace Primitive

/-! ## Writes that fit -/

/-- The writes fit into a new packet: counts have 16 bits, and there is room for all bytes. -/
def Fit (ws : List Primitive) : Prop :=
  (∀ n, count n ∈ ws → n < UInt16.size) ∧
    Packet.reserved + (ws.flatMap toBytes).length ≤ packetCapacity

theorem length_toBytes_count (n : Nat) : (count n).toBytes.length = 2 := Bytes.length_ofNat 2 n

theorem overflow?_eq_none_iff {used length : Nat} :
    overflow? used length = none ↔ Packet.reserved + used + length ≤ packetCapacity := by
  simp [overflow?]

theorem fault?_eq_none_iff {used : Nat} {w : Primitive} :
    w.fault? used = none ↔
      (∀ n, w = .count n → n < UInt16.size) ∧
        Packet.reserved + used + w.toBytes.length ≤ packetCapacity := by
  cases w with
  | raw bytes => simp [fault?, overflow?_eq_none_iff, toBytes]
  | count n =>
    by_cases hn : n < UInt16.size
    · simp [fault?, hn, overflow?_eq_none_iff, length_toBytes_count]
    · simp [fault?, hn]

-- By induction on the writes; each leaves less room to those after it, so `used` is general.
/-- None of the writes is skipped behind some bytes exactly if the counts have 16 bits and there
is room for all bytes. -/
theorem firstFault?_eq_none_iff {used : Nat} {ws : List Primitive}
    (h : Packet.reserved + used ≤ packetCapacity) :
    firstFault? used ws = none ↔
      (∀ n, count n ∈ ws → n < UInt16.size) ∧
        Packet.reserved + used + (ws.flatMap toBytes).length ≤ packetCapacity := by
  induction ws generalizing used with
  | nil => simpa [firstFault?] using h
  | cons w ws ih =>
    rw [firstFault?, Option.or_eq_none_iff, fault?_eq_none_iff]
    simp only [List.mem_cons, List.flatMap_cons, List.length_append]
    constructor
    · rintro ⟨⟨hcount, hroom⟩, hothers⟩
      obtain ⟨hcounts, hrooms⟩ := (ih (by omega)).1 hothers
      refine ⟨?_, by omega⟩
      rintro n (hn | hn)
      · exact hcount n hn.symm
      · exact hcounts n hn
    · rintro ⟨hcounts, hroom⟩
      have hcount (n : Nat) (hn : w = count n) : n < UInt16.size := hcounts n (.inl hn.symm)
      refine ⟨⟨hcount, by omega⟩, (ih (by omega)).2 ⟨?_, by omega⟩⟩
      intro n hn
      exact hcounts n (.inr hn)

theorem fit_iff {ws : List Primitive} : Fit ws ↔ firstFault? 0 ws = none := by
  have hempty : Packet.reserved + 0 ≤ packetCapacity := by decide
  exact (firstFault?_eq_none_iff hempty).symm

/-! ## The first write that does not fit -/

theorem firstFault?_append (used : Nat) (ws more : List Primitive) :
    firstFault? used (ws ++ more) =
      (firstFault? used ws).or (firstFault? (used + (ws.flatMap toBytes).length) more) := by
  induction ws generalizing used with
  | nil => rfl
  | cons w ws ih =>
    rw [List.cons_append, firstFault?, firstFault?, ih, Option.or_assoc, List.flatMap_cons,
      List.length_append, Nat.add_assoc]

theorem exists_first_fault {used : Nat} {ws : List Primitive} {fault : Packet.Fault}
    (h : firstFault? used ws = some fault) :
    ∃ before w after, ws = before ++ w :: after ∧ firstFault? used before = none ∧
      w.fault? (used + (before.flatMap toBytes).length) = some fault := by
  induction ws generalizing used with
  | nil => cases h
  | cons w ws ih =>
    rw [firstFault?] at h
    cases hfirst : w.fault? used with
    | some _ =>
      rw [hfirst, Option.some_or] at h
      exact ⟨[], w, ws, rfl, rfl, hfirst.trans h⟩
    | none =>
      rw [hfirst, Option.none_or] at h
      obtain ⟨before, skipped, after, rfl, hbefore, hskipped⟩ := ih h
      refine ⟨w :: before, skipped, after, rfl, ?_, ?_⟩
      · rw [firstFault?, hfirst, Option.none_or, hbefore]
      · rwa [List.flatMap_cons, List.length_append, ← Nat.add_assoc]

/-- The error of a write that does not fit behind `used` bytes. -/
def refusal (used : Nat) : Primitive → WireError
  | .raw bytes => .overflow (Packet.reserved + used + bytes.length)
  | .count n =>
    if n < UInt16.size then .overflow (Packet.reserved + used + 2) else .lengthOverflow n

theorem toError_of_fault? {used : Nat} {w : Primitive} {fault : Packet.Fault}
    (h : w.fault? used = some fault) : fault.toError = w.refusal used := by
  have hoverflow {length : Nat} (h : overflow? used length = some fault) :
      fault.toError = .overflow (Packet.reserved + used + length) := by
    simp only [overflow?, Option.ite_none_left_eq_some] at h
    obtain ⟨-, h⟩ := h
    cases h
    rfl
  cases w with
  | raw bytes => exact hoverflow h
  | count n =>
    by_cases hn : n < UInt16.size
    · rw [fault?, if_pos hn] at h
      rw [refusal, if_pos hn]
      exact hoverflow h
    · rw [fault?, if_neg hn] at h
      rw [refusal, if_neg hn]
      cases h
      rfl

/-- A write that does not fit is skipped, and with it all that are made after it. -/
theorem writeAll_of_first {before : List Primitive} {w : Primitive} {p : Packet}
    {fault : Packet.Fault} (h : p.fault = none)
    (hbefore : firstFault? p.payload.length before = none)
    (hfault : w.fault? (p.payload.length + (before.flatMap toBytes).length) = some fault)
    (after : List Primitive) :
    writeAll (before ++ w :: after) p =
      { p with payload := p.payload ++ before.flatMap toBytes, fault := some fault } := by
  rw [← List.length_append] at hfault
  rw [writeAll_append, writeAll_of_fits h hbefore]
  have hskipped := write_eq (p := { p with payload := p.payload ++ before.flatMap toBytes }) h w
  rw [hfault] at hskipped
  change writeAll after (w.write _) = _
  rw [hskipped]
  exact writeAll_of_fault rfl after

theorem header_writeAll (ws : List Primitive) (p : Packet) : (writeAll ws p).header = p.header := by
  have h : writeAll ws p = { writeAll ws p with header := p.header } :=
    writeAll_withHeader ws p p.header
  rw [h]

end Primitive

namespace Item

/-! ## Messages -/

theorem allPrimitives_append (items more : List Item) :
    allPrimitives (items ++ more) = allPrimitives items ++ allPrimitives more := by
  induction items with
  | nil => rfl
  | cons item items ih =>
    rw [List.cons_append, allPrimitives, allPrimitives, ih, List.append_assoc]

mutual

/-- Whether an item sets the header of the packet it is written to. -/
def setsHeader : Item → Bool
  | .header _ => true
  | .list elements => anySetsHeader elements
  | .value .. | .raw _ | .embedded _ => false

def anySetsHeader : List Item → Bool
  | [] => false
  | item :: items => setsHeader item || anySetsHeader items

end

mutual

theorem header_write {item : Item} (h : item.setsHeader = false) (p : Packet) :
    (item.write p).header = p.header := by
  match item with
  | .value shape v =>
    rw [write, Shape.write_eq_writeAll]
    exact Primitive.header_writeAll _ p
  | .raw bytes => exact Primitive.header_writeAll [.raw bytes] p
  | .embedded message => exact Primitive.header_writeAll [.raw (writeAll message .empty).payload] p
  | .header _ => cases h
  | .list elements =>
    have hcount : (p.count elements.length).header = p.header :=
      Primitive.header_writeAll [.count elements.length] p
    rw [write]
    split
    · exact hcount
    · rw [header_writeAll h, hcount]

theorem header_writeAll {items : List Item} (h : anySetsHeader items = false) (p : Packet) :
    (writeAll items p).header = p.header := by
  match items with
  | [] => rfl
  | item :: items =>
    obtain ⟨hitem, hitems⟩ := Bool.or_eq_false_iff.1 h
    rw [writeAll, header_writeAll hitems, header_write hitem]

end

/-- A packet is the writes of its message, and nothing else. -/
theorem writeAll_empty (message : List Item) (header : UInt8) :
    writeAll message (.empty header) =
      { Primitive.writeAll (allPrimitives message) (.empty header) with
        header := (writeAll message (.empty header)).header } := by
  obtain ⟨set, hwritten⟩ := writeAll_eq message (.empty header)
  rw [hwritten]

theorem writeAll_of_fit {message : List Item} (header : UInt8)
    (h : Primitive.Fit (allPrimitives message)) :
    writeAll message (.empty header) =
      ⟨(writeAll message (.empty header)).header,
        (allPrimitives message).flatMap Primitive.toBytes, none⟩ := by
  have hwhole := Primitive.writeAll_of_fits (p := .empty header) rfl (Primitive.fit_iff.1 h)
  rw [writeAll_empty, hwhole]
  rfl

theorem encode_of_fit {message : List Item} (header : UInt8)
    (h : Primitive.Fit (allPrimitives message)) :
    let whole := (allPrimitives message).flatMap Primitive.toBytes
    (writeAll message (.empty header)).encode =
      .ok ((writeAll message (.empty header)).header :: Bytes.ofNat 2 whole.length ++ whole) := by
  rw [Packet.encode_eq (length_payload_writeAll_le message header), writeAll_of_fit header h]

/-- Where a message stops to fit, the packet keeps what was written before, whatever follows. -/
theorem encode_of_first {message more : List Item} {header : UInt8} {before after : List Primitive}
    {w : Primitive} {fault : Packet.Fault} (h : allPrimitives message = before ++ w :: after)
    (hbefore : Primitive.firstFault? 0 before = none)
    (hfault : w.fault? (before.flatMap Primitive.toBytes).length = some fault) :
    let packet := writeAll (message ++ more) (.empty header)
    packet.payload = before.flatMap Primitive.toBytes ∧
      packet.encode = .error (w.refusal (before.flatMap Primitive.toBytes).length) := by
  have hwritten : writeAll (message ++ more) (.empty header) =
      ⟨(writeAll (message ++ more) (.empty header)).header,
        before.flatMap Primitive.toBytes, some fault⟩ := by
    rw [← Nat.zero_add (before.flatMap Primitive.toBytes).length] at hfault
    have hsplit : allPrimitives (message ++ more) =
        before ++ w :: (after ++ allPrimitives more) := by
      rw [allPrimitives_append, h, List.append_assoc, List.cons_append]
    rw [writeAll_empty, hsplit,
      Primitive.writeAll_of_first (p := .empty header) rfl hbefore hfault]
    rfl
  have hroom := length_payload_writeAll_le (message ++ more) header
  dsimp only
  rw [Packet.encode_eq hroom, hwritten]
  refine ⟨rfl, ?_⟩
  rw [← Primitive.toError_of_fault? hfault]

/-- **What is written to a packet and what is sent of it.**  A message whose writes fit is sent as
the header, the length and all its writes.  Of any other the packet holds what was written before
the first write that does not fit, and reports the error of that write. -/
theorem encode_writeAll (message : List Item) (header : UInt8) :
    let packet := writeAll message (.empty header)
    let writes := allPrimitives message
    let whole := writes.flatMap Primitive.toBytes
    (Primitive.Fit writes →
      packet.encode = .ok (packet.header :: Bytes.ofNat 2 whole.length ++ whole)) ∧
    (¬ Primitive.Fit writes →
      ∃ before w after, writes = before ++ w :: after ∧
        Primitive.Fit before ∧ ¬ Primitive.Fit (before ++ [w]) ∧
        ∀ more : List Item,
          (writeAll (message ++ more) (.empty header)).payload =
            before.flatMap Primitive.toBytes ∧
          (writeAll (message ++ more) (.empty header)).encode =
            .error (w.refusal (before.flatMap Primitive.toBytes).length)) ∧
    (anySetsHeader message = false → packet.header = header) ∧
    Packet.reserved + packet.payload.length ≤ packetCapacity ∧
    ((∃ bytes, packet.encode = .ok bytes) ↔ packet.fault = none) := by
  have hroom := length_payload_writeAll_le message header
  refine ⟨encode_of_fit header, ?_, fun h => header_writeAll h _, hroom, ?_⟩
  · intro hunfit
    obtain ⟨fault, hfirst⟩ := Option.ne_none_iff_exists'.1 (mt Primitive.fit_iff.2 hunfit)
    obtain ⟨before, w, after, hsplit, hbefore, hfault⟩ := Primitive.exists_first_fault hfirst
    have hskipped : Primitive.firstFault? 0 (before ++ [w]) = some fault := by
      rw [Primitive.firstFault?_append, hbefore, Option.none_or, Primitive.firstFault?, hfault,
        Option.some_or]
    refine ⟨before, w, after, hsplit, Primitive.fit_iff.2 hbefore, ?_, fun more => ?_⟩
    · rw [Primitive.fit_iff, hskipped]
      exact Option.some_ne_none fault
    · rw [Nat.zero_add] at hfault
      exact encode_of_first hsplit hbefore hfault
  · rw [Packet.encode_eq hroom]
    cases (writeAll message (.empty header)).fault with
    | none => simp
    | some fault => simp

/-- A text is written behind its length, and a list behind its count. -/
example : allPrimitives [.value (.list .text) ["é", ""], .header 8, .embedded [.raw [7]]] =
    [.count 2, .count 2, .raw [0xc3, 0xa9], .count 0, .raw [], .raw [7]] := by decide

end Item

end Multiplayer
