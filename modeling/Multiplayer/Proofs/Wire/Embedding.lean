import Multiplayer.Client.Request
import Multiplayer.Proofs.Wire.Primitive

/-!
# Embedded messages and skipped writes

A packet reports when it is encoded that one of its own writes was skipped.  It does not report
that of a message embedded in it: the part of that message that was written is embedded, and the
outer packet is as good as any.

* `Item.Skips`: a write of a message does not fit behind those before it.
* `Item.encode_eq_error_iff_skips` says when a packet cannot be encoded.
* `Item.encode_embedded_half_written`: a message that was cut short and is sent nevertheless.
-/

namespace Multiplayer

namespace Item

/-- A write of the message does not fit behind those before it.  An embedded message is one write,
of what its own packet holds. -/
def Skips (message : List Item) : Prop :=
  Primitive.firstFault? 0 (allPrimitives message) ≠ none

theorem skips_iff_fault {message : List Item} (header : UInt8) :
    Skips message ↔ (writeAll message (.empty header)).fault ≠ none := by
  rw [fault_writeAll, Skips]

mutual

/-- The messages that are embedded in an item, at any depth. -/
def within : Item → List (List Item)
  | .list elements => allWithin elements
  | .embedded message => message :: allWithin message
  | .value .. | .raw _ | .header _ => []

def allWithin : List Item → List (List Item)
  | [] => []
  | item :: items => within item ++ allWithin items

end

/-- A packet with room for its payload can be encoded unless a write to it was skipped. -/
theorem encode_eq_error_iff_fault {p : Packet}
    (h : Packet.reserved + p.payload.length ≤ packetCapacity) :
    (∃ e, p.encode = .error e) ↔ p.fault ≠ none := by
  rw [Packet.encode_eq h]
  cases p.fault with
  | none => simp
  | some fault => simp

/-- **What is reported of skipped writes.**  The packet of a message cannot be encoded exactly if a
write of the message itself was skipped.  A skipped write of an embedded message is not noticed, and
a user message is sent as if that had been all of it. -/
theorem encode_eq_error_iff_skips (message : List Item) (header : UInt8) :
    ((∃ e, (writeAll message (.empty header)).encode = .error e) ↔ Skips message) ∧
    ((∀ inner ∈ allWithin message, ¬ Skips inner) →
      ((∃ e, (writeAll message (.empty header)).encode = .error e) ↔
        ∃ part ∈ message :: allWithin message, Skips part)) ∧
    ∀ {τ δ α : Type} [Transport τ] (command : UInt16) (destination : Destination) (body : Packet),
      (Client.sendMessage command (some body) destination : Operation τ δ α Unit) =
        Client.sendMessage command (some { body with fault := none }) destination := by
  have hiff : (∃ e, (writeAll message (.empty header)).encode = .error e) ↔ Skips message := by
    rw [encode_eq_error_iff_fault (length_payload_writeAll_le message header),
      skips_iff_fault header]
  refine ⟨hiff, fun hwhole => ?_, ?_⟩
  · rw [hiff]
    constructor
    · intro hskips
      exact ⟨message, List.mem_cons_self, hskips⟩
    · rintro ⟨part, hpart, hskips⟩
      rcases List.mem_cons.1 hpart with rfl | hinner
      · exact hskips
      · exact absurd hskips (hwhole part hinner)
  · intros
    rfl

/-! ## A message that is cut short -/

/-- One byte more than there is room for behind a first byte. -/
def halfWritten : List Item := [.value .uint8 1, .raw (List.replicate 8189 0)]

theorem writeAll_halfWritten (header : UInt8) :
    writeAll halfWritten (.empty header) = ⟨header, [1], some (.overflow 8193)⟩ := by
  have hfirst : Item.write (.value .uint8 1) (.empty header) = ⟨header, [1], none⟩ := rfl
  have hsecond {bytes : Bytes} (hlength : bytes.length = 8189) :
      Item.write (.raw bytes) ⟨header, [1], none⟩ = ⟨header, [1], some (.overflow 8193)⟩ := by
    have hoverflow : Primitive.overflow? 1 8189 = some (.overflow 8193) := by decide
    rw [Item.write, Primitive.append_eq rfl, hlength, List.length_singleton, hoverflow]
  rw [halfWritten, writeAll, writeAll, writeAll, hfirst, hsecond List.length_replicate]

/-- A packet that cannot be encoded is embedded in two that can, and the second of them is a user
message that is sent. -/
theorem encode_embedded_half_written :
    (∃ part ∈ [.embedded halfWritten] :: allWithin [.embedded halfWritten], Skips part) ∧
    (writeAll halfWritten .empty).encode = .error (.overflow 8193) ∧
    (writeAll [.embedded halfWritten] .empty).encode = .ok [0x39, 0, 1, 1] ∧
    (Client.messagePacket 7 (some (writeAll halfWritten .empty)) ⟨.room, 0xffff⟩).encode =
      .ok [0x08, 0, 8, 0x00, 0xff, 2, 0xff, 0xff, 0, 7, 1] := by
  have hinner := writeAll_halfWritten Packet.defaultHeader
  have hskips : Skips halfWritten := by
    rw [skips_iff_fault Packet.defaultHeader, hinner]
    exact nofun
  refine ⟨⟨halfWritten, by simp [allWithin, within], hskips⟩, ?_, ?_, ?_⟩
  · rw [hinner]
    rfl
  · have houter : writeAll [.embedded halfWritten] .empty =
        Packet.empty.embed (writeAll halfWritten .empty) := rfl
    rw [houter, hinner]
    rfl
  · rw [hinner]
    rfl

end Item

end Multiplayer
