import Multiplayer.Proofs.Stream.Grammar
import Multiplayer.Proofs.Time.Epoch
import Multiplayer.Proofs.Wire.Canonical

/-!
# Eight bytes are always a time

Any eight bytes are a count of ticks, and the time of any count is one that a clock can hold.  So
a time is read from any eight bytes, and no clock sample of the stream is dropped.  The eight bytes
are written again for the time that was read from them, but for one count: the least one is written
as its neighbour, because a time before the epoch is written as a count after it with the sign
turned, and no count after the epoch is as great.

* `Timestamp.digits`: the eight bytes of a count of ticks.
* `Timestamp.reads_digits`, `Timestamp.payload_write_eq_iff`: what is read from them, and when they
  are written again.
* `Assembler.drain_units_append`: a stream is drained unit by unit.
* `Timestamp.carries_counts` is the result, and `Timestamp.moves_least_count` the exception.
-/

namespace Multiplayer

namespace Timestamp

/-- A count of ticks on the wire. -/
def digits (ticks : Int64) : Bytes := Shape.int64.written ticks

theorem digits_eq (ticks : Int64) : digits ticks = Bytes.ofNat 8 ticks.toUInt64.toNat := by
  simp [digits, Shape.written, Shape.primitives, Primitive.toBytes]

theorem length_digits (ticks : Int64) : (digits ticks).length = 8 := by
  rw [digits_eq, Bytes.length_ofNat]

theorem toInt64_toNat_digits (ticks : Int64) :
    (UInt64.ofNat (Bytes.toNat (digits ticks))).toInt64 = ticks := by
  have hlt : ticks.toUInt64.toNat < Nat.pow 256 8 := UInt64.toNat_lt _
  rw [digits_eq, Bytes.toNat_ofNat, Nat.mod_eq_of_lt hlt, UInt64.ofNat_toNat]
  rfl

theorem reads_digits (ticks : Int64) :
    Decoder.Reads Shape.time.read (digits ticks) (ofTicks ticks) := by
  rw [digits_eq]
  exact (Decoder.reads_uint64 ticks.toUInt64).bind_pure rfl

theorem payload_write (t : Timestamp) (header : UInt8) :
    (Shape.time.write t (.empty header)).payload = digits t.toTicks := by
  have hroom : Primitive.firstFault? (Packet.empty header).payload.length
      (Shape.time.primitives t) = none := by
    simp [Shape.primitives, Primitive.firstFault?, Primitive.fault?, Primitive.overflow?,
      Packet.empty, Packet.reserved, packetCapacity]
  rw [Shape.write_eq_writeAll, Primitive.writeAll_of_fits rfl hroom]
  rfl

/-- The eight bytes are written again, unless they are those of the least count. -/
theorem payload_write_eq_iff (ticks : Int64) (header : UInt8) :
    (Shape.time.write (ofTicks ticks) (.empty header)).payload = digits ticks ↔
      ticks ≠ Int64.minValue := by
  have hwritten : Shape.time.written (ofTicks ticks) = digits (ofTicks ticks).toTicks := rfl
  rw [payload_write, ← hwritten]
  exact Shape.written_meaning_iff .time ticks

end Timestamp

/-- A clock sample: eight bytes of which nothing is made, and a count of ticks. -/
def StreamUnit.sample (header : Header 5) (stamp : { stamp : Bytes // stamp.length = 8 })
    (ticks : Int64) : StreamUnit :=
  .clock header ⟨stamp.1 ++ Timestamp.digits ticks, by
    rw [List.length_append, stamp.2, Timestamp.length_digits]⟩

theorem StreamUnit.events_sample (header : Header 5)
    (stamp : { stamp : Bytes // stamp.length = 8 }) (ticks : Int64) :
    (sample header stamp ticks).events = [.clock (.ofTicks ticks)] := by
  have hdrop : (stamp.1 ++ Timestamp.digits ticks).drop 8 = Timestamp.digits ticks :=
    List.drop_left' stamp.2
  show [StreamEvent.clock (.ofTicks (UInt64.ofNat (Bytes.toNat
    ((stamp.1 ++ Timestamp.digits ticks).drop 8))).toInt64)] = _
  rw [hdrop, Timestamp.toInt64_toNat_digits]

/-- The events of a stream that begins with some units are theirs and then those of the rest. -/
theorem Assembler.drain_units_append (discarded : Nat) (units : List StreamUnit) (rest : Bytes) :
    (drain ⟨.header, discarded⟩ (units.flatMap StreamUnit.bytes ++ rest)).1 =
      units.flatMap StreamUnit.events ++
        (drain ⟨.header, discarded + units.countP StreamUnit.isOther⟩ rest).1 := by
  have hpartial (discarded : Nat) : (⟨.header, discarded⟩ : Assembler).stage.Partial := trivial
  rw [drain_bytes (hpartial _), drain_bytes (hpartial _), feed_append, feed_units]

namespace Timestamp

/-- **Every count of ticks is a time, and all but one are written again.**  So a time is read from
any eight bytes, and writing it gives these bytes again, exactly if the count is not the least one.
A clock sample with these bytes at its end tells the time. -/
theorem carries_counts (ticks : Int64) :
    ∃ t, ofTicks? ticks = some t ∧
      t.toTicks = (if ticks = Int64.minValue then Int64.minValue + 1 else ticks) ∧
      (∀ (position : Nat) (rest : Bytes),
        Shape.time.read.run.run ⟨position, digits ticks ++ rest⟩ =
          (.ok t, ⟨position + 8, rest⟩)) ∧
      (∀ header : UInt8, (Shape.time.write t (.empty header)).payload = digits ticks ↔
        ticks ≠ Int64.minValue) ∧
      ∀ (discarded : Nat) (units : List StreamUnit) (header : Header 5)
        (stamp : { stamp : Bytes // stamp.length = 8 }) (rest : Bytes),
        (Assembler.drain ⟨.header, discarded⟩ (units.flatMap StreamUnit.bytes ++
          (header.1 :: (stamp.1 ++ digits ticks) ++ rest))).1 =
          units.flatMap StreamUnit.events ++ .clock t ::
            (Assembler.drain ⟨.header, discarded + units.countP StreamUnit.isOther⟩ rest).1 := by
  refine ⟨ofTicks ticks, ofTicks?_eq ticks, toTicks_ofTicks ticks, ?_, payload_write_eq_iff ticks,
    ?_⟩
  · intro position rest
    have hread := reads_digits ticks position rest
    rwa [length_digits] at hread
  · intro discarded units header stamp rest
    have hbytes : header.1 :: (stamp.1 ++ digits ticks) ++ rest =
        [StreamUnit.sample header stamp ticks].flatMap StreamUnit.bytes ++ rest := by
      rw [List.flatMap_singleton]
      rfl
    have hevents : [StreamUnit.sample header stamp ticks].flatMap StreamUnit.events =
        [.clock (ofTicks ticks)] := by
      rw [List.flatMap_singleton, StreamUnit.events_sample]
    rw [Assembler.drain_units_append, hbytes, Assembler.drain_units_append, hevents]
    rfl

/-- The eight bytes of the least count are read as a time for which others are written. -/
theorem moves_least_count :
    let t : Timestamp := ⟨-922337203685477580800⟩
    ofTicks? Int64.minValue = some t ∧ t.toTicks = Int64.minValue + 1 ∧
      t.toTicks ≠ Int64.minValue ∧
      Shape.time.read.run.run (.ofBytes [128, 0, 0, 0, 0, 0, 0, 0]) = (.ok t, ⟨8, []⟩) ∧
      (Shape.time.write t (.empty 0x39)).payload = [128, 0, 0, 0, 0, 0, 0, 1] := by
  intro t
  have htime : ofTicks Int64.minValue = t := rfl
  have hread := reads_digits Int64.minValue 0 []
  have hticks := toTicks_ofTicks Int64.minValue
  rw [if_pos rfl] at hticks
  refine ⟨ofTicks?_eq Int64.minValue, hticks, t.toTicks_ne_minValue, hread, ?_⟩
  rw [← htime, payload_write, hticks]
  rfl

end Timestamp

end Multiplayer
