import Multiplayer.Proofs.Stream.Fragmentation
import Multiplayer.Proofs.Stream.Grammar
import Multiplayer.Proofs.Wire.Filling

/-!
# Data frames from one end to the other

The bytes of a data frame come from the encoder of frames or from that of packets, and the
assembler makes a frame of them again.  The three agree on the length field.

* `Frame.encode_eq`: a body of up to 65533 bytes can be encoded.
* `Frame.encode_writeAll_forEvent`: a packet of the same code and body is encoded to the same
  bytes, if it has room for them.
* `Assembler.drainEach` drains a stream that arrives in pieces.
* `Frame.encode_drain` is the result.
-/

namespace Multiplayer

namespace Frame

/-- The header says that counted data follows. -/
def IsData (frame : Frame) : Prop :=
  frame.kind? = some .builtin ∨ frame.kind? = some .application

instance : DecidablePred IsData := fun _ => inferInstanceAs (Decidable (_ ∨ _))

theorem IsData.header_mod {frame : Frame} (h : frame.IsData) :
    frame.header.toNat % 16 = 8 ∨ frame.header.toNat % 16 = 9 := by
  have hbyte {kind : FrameKind} (hkind : frame.kind? = some kind) :
      kind.toByte.toNat = frame.header.toNat % 16 := by
    rw [kind?, Assembler.ofHeader?_eq_find?] at hkind
    simpa using List.find?_some hkind
  rcases h with h | h
  · exact .inl (hbyte h).symm
  · exact .inr (hbyte h).symm

/-! ## Two encoders -/

theorem length_payload (frame : Frame) : frame.payload.length = frame.body.length + 2 := by
  rw [payload, List.length_append, Bytes.length_ofNat, Nat.add_comm]

theorem length_payload_lt_iff (frame : Frame) :
    frame.payload.length < UInt16.size ↔ frame.body.length ≤ 65533 := by
  have hsize : UInt16.size = 65536 := rfl
  rw [length_payload]
  omega

theorem encode_eq (frame : Frame) :
    frame.encode =
      if frame.body.length ≤ 65533 then
        .ok (frame.header :: Bytes.ofNat 2 frame.payload.length ++ frame.payload)
      else .error (.lengthOverflow frame.payload.length) := by
  simp only [encode, length_payload_lt_iff]

theorem exists_encode_iff (frame : Frame) :
    (∃ bytes, frame.encode = .ok bytes) ↔ frame.body.length ≤ 65533 := by
  rw [encode_eq]
  constructor
  · rintro ⟨bytes, h⟩
    split at h
    · assumption
    · cases h
  · intro hlength
    exact ⟨_, if_pos hlength⟩

/-- A packet that starts with the event code and is given the body is encoded as the frame. -/
theorem encode_writeAll_forEvent {frame : Frame} {message : List Item}
    (hbody : (Item.allPrimitives message).flatMap Primitive.toBytes = frame.body)
    (hcounts : ∀ n, .count n ∈ Item.allPrimitives message → n < UInt16.size)
    (hheader : Item.anySetsHeader message = false) (hroom : frame.body.length ≤ 8187) :
    (Item.writeAll message (.forEvent frame.code frame.header)).encode = frame.encode := by
  have hwrites : Item.allPrimitives (.value .uint16 frame.code :: message) =
      .raw (Bytes.ofNat 2 frame.code.toNat) :: Item.allPrimitives message := rfl
  have hpayload : (Item.allPrimitives (.value .uint16 frame.code :: message)).flatMap
      Primitive.toBytes = frame.payload := by
    rw [hwrites, List.flatMap_cons, hbody]
    rfl
  have hwhole : Primitive.Fit (Item.allPrimitives (.value .uint16 frame.code :: message)) := by
    constructor
    · intro n hn
      rw [hwrites] at hn
      rcases List.mem_cons.1 hn with hn | hn
      · cases hn
      · exact hcounts n hn
    · rw [hpayload, length_payload]
      simp only [Packet.reserved, packetCapacity]
      omega
  have hencode := Item.encode_of_fit frame.header hwhole
  rw [hpayload, Item.header_writeAll (by simpa [Item.anySetsHeader, Item.setsHeader])] at hencode
  rw [encode_eq, if_pos (by omega)]
  exact hencode

end Frame

/-! ## The way back -/

namespace Assembler

theorem feed_frame {frame : Frame} {bytes : Bytes} (hdata : frame.IsData)
    (h : frame.encode = .ok bytes) (discarded : Nat) :
    feed ⟨.header, discarded⟩ bytes = ([.frame frame], ⟨.header, discarded⟩) := by
  have hlength : frame.payload.length < UInt16.size :=
    frame.length_payload_lt_iff.2 (frame.exists_encode_iff.1 ⟨bytes, h⟩)
  have hbytes : bytes = (StreamUnit.data frame.header hdata.header_mod _ hlength).bytes := by
    rw [Frame.encode, if_pos hlength] at h
    cases h
    rfl
  have hevents : (StreamUnit.data frame.header hdata.header_mod _ hlength).events =
      [.frame frame] := by
    obtain ⟨high, low, hdigits, hcode⟩ := StreamUnit.exists_lengthDigits frame.code.toNat_lt
    have hpayload : frame.payload = high :: low :: frame.body := by
      rw [Frame.payload, hdigits]
      rfl
    simp [StreamUnit.events, hpayload, hcode]
  rw [hbytes, feed_unit, hevents]
  rfl

/-- Frames that were written one after another are read one after another. -/
theorem feed_frames {frames : List Frame} {parts : List Bytes}
    (hdata : ∀ frame ∈ frames, frame.IsData) (h : frames.map Frame.encode = parts.map .ok)
    (discarded : Nat) :
    feed ⟨.header, discarded⟩ parts.flatten = (frames.map .frame, ⟨.header, discarded⟩) := by
  induction frames generalizing parts with
  | nil =>
    have hnone : parts = [] := by simpa using h.symm
    subst hnone
    rfl
  | cons frame frames ih =>
    cases parts with
    | nil => cases h
    | cons part parts =>
      obtain ⟨hpart, hparts⟩ := List.cons.inj h
      have hothers := ih (fun frame hmem => hdata frame (List.mem_cons_of_mem _ hmem)) hparts
      rw [List.flatten_cons, feed_append, feed_frame (hdata frame List.mem_cons_self) hpart,
        hothers]
      rfl

/-- Drains the pieces of a stream as they arrive: the events in order, and the state after them. -/
def drainEach : Assembler → (pieces : List Bytes) → List StreamEvent × Assembler
  | a, [] => ([], a)
  | a, piece :: pieces =>
    let (events, _, a', _) := a.drain piece
    let (others, a'') := drainEach a' pieces
    (events ++ others, a'')

theorem drainEach_eq_feed {a : Assembler} (h : a.stage.Partial) (pieces : List Bytes) :
    a.drainEach pieces = a.feed pieces.flatten := by
  induction pieces generalizing a with
  | nil => rfl
  | cons piece pieces ih =>
    rw [drainEach, drain_bytes h, List.flatten_cons, feed_append, ← ih (partial_feed h piece)]

variable {σ ε : Type} [ByteSource σ ε]

/-- Polls of a source give the events of a stream in their order, and all of them once it has been
delivered. -/
theorem pollTimes_prefix {remaining : σ → Bytes} (hd : ByteSource.Delivers remaining)
    {a a' : Assembler} {s : σ} {events : List StreamEvent}
    (hfeed : a.feed (remaining s) = (events, a')) (n : Nat) :
    (pollTimes n a s).1 <+: events ∧
      (remaining (pollTimes n a s).2.2 = [] →
        (pollTimes n a s).1 = events ∧ (pollTimes n a s).2.1 = a') := by
  obtain ⟨taken, hstream, htaken⟩ := pollTimes_feed hd n a s
  rw [hstream, feed_append, htaken, Prod.mk.injEq] at hfeed
  obtain ⟨hevents, hstate⟩ := hfeed
  refine ⟨⟨_, hevents⟩, fun hall => ?_⟩
  rw [hall] at hevents hstate
  exact ⟨(List.append_nil _).symm.trans hevents, hstate⟩

end Assembler

/-- **Data frames are read as they were written.**  A body of up to 65533 bytes can be encoded, and
a packet that has room for it is encoded to the same bytes.  A stream of such frames is read by an
idle assembler as these frames, in any pieces. -/
theorem Frame.encode_drain :
    (∀ frame : Frame,
      ((∃ bytes, frame.encode = .ok bytes) ↔ frame.body.length ≤ 65533) ∧
      (65533 < frame.body.length → frame.encode = .error (.lengthOverflow frame.payload.length)) ∧
      (frame.body.length ≤ 8187 → ∀ message : List Item,
        (Item.allPrimitives message).flatMap Primitive.toBytes = frame.body →
        (∀ n, .count n ∈ Item.allPrimitives message → n < UInt16.size) →
        Item.anySetsHeader message = false →
        (Item.writeAll message (.forEvent frame.code frame.header)).encode = frame.encode)) ∧
    ∀ (frames : List Frame) (parts : List Bytes), (∀ frame ∈ frames, frame.IsData) →
      frames.map Frame.encode = parts.map .ok → ∀ a : Assembler, a.isIdle →
      (∀ pieces : List Bytes, pieces.flatten = parts.flatten →
        a.drainEach pieces = (frames.map .frame, a)) ∧
      ∀ {σ ε : Type} [ByteSource σ ε] {remaining : σ → Bytes}, ByteSource.Delivers remaining →
        ∀ s : σ, remaining s = parts.flatten → ∀ n : Nat,
          (Assembler.pollTimes n a s).1 <+: frames.map .frame ∧
          (remaining (Assembler.pollTimes n a s).2.2 = [] →
            (Assembler.pollTimes n a s).1 = frames.map .frame ∧
              (Assembler.pollTimes n a s).2.1 = a) := by
  refine ⟨fun frame => ⟨frame.exists_encode_iff, fun hlong => ?_, ?_⟩, ?_⟩
  · rw [encode_eq, if_neg (Nat.not_le.2 hlong)]
  · intro hroom message hbody hcounts hheader
    exact encode_writeAll_forEvent hbody hcounts hheader hroom
  · intro frames parts hdata hparts a hidle
    obtain ⟨stage, discarded⟩ := a
    obtain rfl : stage = .header := by simpa [Assembler.isIdle] using hidle
    have hpartial : (⟨.header, discarded⟩ : Assembler).stage.Partial := trivial
    have hfeed := Assembler.feed_frames hdata hparts discarded
    refine ⟨fun pieces hpieces => ?_, fun hd s hs n => Assembler.pollTimes_prefix hd ?_ n⟩
    · rw [Assembler.drainEach_eq_feed hpartial, hpieces, hfeed]
    · rw [hs, hfeed]

/-- Two frames with flags, one of them without a body and the other also made by a packet, for an
assembler that has dropped headers before. -/
theorem Frame.encode_drain_flagged :
    let frames : List Frame := [⟨0xf8, 0x0102, []⟩, ⟨0x39, 7, [0, 1, 0xaa]⟩]
    let parts : List Bytes := [[0xf8, 0, 2, 1, 2], [0x39, 0, 5, 0, 7, 0, 1, 0xaa]]
    let message : List Item := [.value .bytes [0xaa]]
    let a : Assembler := ⟨.header, 3⟩
    (∀ frame ∈ frames, frame.IsData) ∧ frames.map Frame.encode = parts.map .ok ∧
      (Item.writeAll message (.forEvent 7 0x39)).encode = Frame.encode ⟨0x39, 7, [0, 1, 0xaa]⟩ ∧
      a.drainEach [[0xf8], [0, 2, 1], [], [2, 0x39, 0], [5, 0, 7, 0, 1], [0xaa]] =
        (frames.map .frame, a) := by
  intro frames parts message a
  have hdata : ∀ frame ∈ frames, frame.IsData := by decide
  have hparts : frames.map Frame.encode = parts.map .ok := rfl
  have hcounts : ∀ n, .count n ∈ Item.allPrimitives message → n < UInt16.size := by
    intro n hn
    obtain rfl : n = 1 := by simpa [message, Item.allPrimitives, Item.primitives,
      Shape.primitives] using hn
    decide
  have hpacket := (Frame.encode_drain.1 ⟨0x39, 7, [0, 1, 0xaa]⟩).2.2 (by decide) message rfl
    hcounts rfl
  exact ⟨hdata, hparts, hpacket, (Frame.encode_drain.2 frames parts hdata hparts a rfl).1 _ rfl⟩

end Multiplayer
