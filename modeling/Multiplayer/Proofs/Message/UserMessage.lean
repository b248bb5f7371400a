import Multiplayer.Client.Request
import Multiplayer.Proofs.Client.Lifecycle
import Multiplayer.Proofs.Stream.Framing
import Multiplayer.Proofs.Transport.Log
import Multiplayer.Proofs.Wire.Spelling

/-!
# User messages from one client to another

A client that sends a message names the destination, and the server puts the origin in front.  Both
ends agree on what stands where, so the other client gets the message that was meant.

* `UserMessage.bytes`: a message as it stands in the body of a frame.
* `UserMessage.ofFrame_eq_ok_iff`: a message is read from the bytes that it is made of, and from no
  others.
* `UserMessage.exists_ofFrame_iff`: which bodies hold a message.
* `Client.encode_messagePacket`: what is sent for a message.
* `Client.messages_agree` is the result.
-/

namespace Multiplayer

open Decoder (Exact Reads)

/-! ## Destinations -/

namespace DestinationKind

theorem ofByte?_eq_ok_iff (byte : UInt8) (kind : DestinationKind) :
    ofByte? byte = .ok kind ↔ byte = kind.toByte := by
  constructor
  · intro h
    simp only [ofByte?] at h
    split at h
    · cases h
      assumption
    split at h
    · cases h
      assumption
    split at h
    · cases h
      assumption
    split at h
    · cases h
      assumption
    · cases h
  · rintro rfl
    exact ofByte?_toByte kind

theorem exact_decoder : Exact (Decoder.enumerated ofByte?) fun kind => [kind.toByte] :=
  Decoder.exact_enumerated ofByte?_eq_ok_iff

theorem le_three_iff (byte : UInt8) : byte ≤ 3 ↔ ∃ kind : DestinationKind, byte = kind.toByte := by
  have hall : ∀ n < 4, ∃ kind ∈ [myself, specified, room, lobby], UInt8.ofNat n = kind.toByte := by
    decide
  constructor
  · intro h
    have hlt : byte.toNat < 4 := Nat.lt_succ_of_le (UInt8.le_iff_toNat_le.1 h)
    obtain ⟨kind, -, hkind⟩ := hall byte.toNat hlt
    rw [UInt8.ofNat_toNat] at hkind
    exact ⟨kind, hkind⟩
  · rintro ⟨kind, rfl⟩
    cases kind <;> decide

end DestinationKind

/-- The first two bytes are the digits of a 16-bit number. -/
theorem Bytes.exists_ofUInt16 (bytes : Bytes) (h : 2 ≤ bytes.length) :
    ∃ (n : UInt16) (rest : Bytes), bytes = Bytes.ofUInt16 n ++ rest := by
  have htwo : (bytes.take 2).length = 2 := List.length_take_of_le h
  have hlt := Bytes.toNat_lt (bytes.take 2)
  rw [htwo] at hlt
  have hdigits : Bytes.ofUInt16 (UInt16.ofNat (Bytes.toNat (bytes.take 2))) = bytes.take 2 := by
    rw [Bytes.ofUInt16, UInt16.toNat_ofNat_of_lt' hlt]
    calc Bytes.ofNat 2 (Bytes.toNat (bytes.take 2))
      _ = Bytes.ofNat (bytes.take 2).length (Bytes.toNat (bytes.take 2)) := by rw [htwo]
      _ = bytes.take 2 := Bytes.ofNat_toNat _
  exact ⟨_, bytes.drop 2, by rw [hdigits, List.take_append_drop]⟩

namespace UserMessage

/-! ## Reading -/

/-- Destination and command as they stand in a message. -/
def addressBytes (address : Destination × UInt16) : Bytes :=
  [address.1.kind.toByte] ++ (Bytes.ofUInt16 address.1.id ++ Bytes.ofUInt16 address.2)

@[simp] theorem length_addressBytes (address : Destination × UInt16) :
    (addressBytes address).length = 5 := by
  simp [addressBytes]

theorem reads_addressBytes (address : Destination × UInt16) :
    Reads addressDecoder (addressBytes address) address :=
  (DestinationKind.exact_decoder.reads address.1.kind).bind
    ((Decoder.reads_uint16 address.1.id).bind ((Decoder.reads_uint16 address.2).bind_pure rfl))

theorem exact_addressDecoder : Exact addressDecoder addressBytes := by
  refine .of_reads reads_addressBytes fun h => ?_
  obtain ⟨kind, c₁, hkind, h⟩ := Attempt.run_bind_ok h
  obtain ⟨id, c₂, hid, h⟩ := Attempt.run_bind_ok h
  obtain ⟨command, c₃, hcommand, h⟩ := Attempt.run_bind_ok h
  cases h
  have hkind := DestinationKind.exact_decoder.1 hkind
  exact hkind.append ((Decoder.exact_uint16.1 hid).append (Decoder.exact_uint16.1 hcommand))

/-- A message as it stands in the body of a frame: the head, and what the application has put into
it. -/
def bytes (message : UserMessage) : Bytes :=
  Bytes.ofUInt16 message.origin.value ++
    (addressBytes (message.destination, message.command) ++ message.body)

theorem ofFrame_of_bytes {frame : Frame} {origin : UInt16} {address : Destination × UInt16}
    {rest : Bytes} (h : frame.body = Bytes.ofUInt16 origin ++ (addressBytes address ++ rest)) :
    ofFrame frame = .ok ⟨⟨origin⟩, address.1, address.2, frame⟩ := by
  have horigin : (Cursor.ofBytes frame.body).GoesOver (Bytes.ofUInt16 origin)
      ⟨2, addressBytes address ++ rest⟩ := ⟨h, by simp [Cursor.ofBytes]⟩
  have haddress : Cursor.GoesOver ⟨2, addressBytes address ++ rest⟩ (addressBytes address)
      ⟨7, rest⟩ := ⟨rfl, by simp⟩
  unfold ofFrame Frame.read Decoder.decode
  rw [Decoder.exact_uint16.run_bind horigin, exact_addressDecoder.run_bind haddress]
  rfl

/-- The application has put into the message what stands behind the head. -/
theorem body_eq {message : UserMessage} {origin : UInt16} {address : Destination × UInt16}
    {rest : Bytes}
    (h : message.frame.body = Bytes.ofUInt16 origin ++ (addressBytes address ++ rest)) :
    message.body = rest := by
  have hhead : (Bytes.ofUInt16 origin ++ addressBytes address).length = headLength := by
    simp [headLength]
  rw [body, h, ← List.append_assoc, ← hhead, List.drop_left]

/-- A message is read from the bytes that it is made of, and from no others. -/
theorem ofFrame_eq_ok_iff {frame : Frame} {message : UserMessage} :
    ofFrame frame = .ok message ↔ message.frame = frame ∧ message.bytes = frame.body := by
  constructor
  · intro h
    unfold ofFrame Frame.read Decoder.decode at h
    obtain ⟨origin, c₁, horigin, h⟩ := Attempt.run_bind_ok (Prod.ext h rfl)
    obtain ⟨address, c₂, haddress, h⟩ := Attempt.run_bind_ok h
    obtain rfl := Except.ok.inj (congrArg Prod.fst h)
    have hhead := (Decoder.exact_uint16.1 horigin).append (exact_addressDecoder.1 haddress)
    have hbody : frame.body = Bytes.ofUInt16 origin ++ (addressBytes address ++ c₂.rest) :=
      hhead.rest.trans (List.append_assoc ..)
    refine ⟨rfl, ?_⟩
    rw [bytes, body_eq hbody, hbody]
  · rintro ⟨rfl, hbytes⟩
    exact ofFrame_of_bytes hbytes.symm

/-- There is a message in every body that has all of a head, with a kind of destination that there
is. -/
theorem exists_ofFrame_iff (frame : Frame) :
    (∃ message, ofFrame frame = .ok message) ↔
      headLength ≤ frame.body.length ∧ ∃ kind ∈ frame.body[2]?, kind ≤ 3 := by
  constructor
  · rintro ⟨message, h⟩
    obtain ⟨-, hbytes⟩ := ofFrame_eq_ok_iff.1 h
    rw [← hbytes]
    constructor
    · simp only [bytes, List.length_append, Bytes.length_ofUInt16, length_addressBytes, headLength]
      omega
    · refine ⟨message.destination.kind.toByte, ?_, (DestinationKind.le_three_iff _).2 ⟨_, rfl⟩⟩
      simp [bytes, addressBytes]
  · rintro ⟨hlength, byte, hbyte, hknown⟩
    obtain ⟨kind, rfl⟩ := (DestinationKind.le_three_iff byte).1 hknown
    have hseven : 7 ≤ frame.body.length := hlength
    obtain ⟨origin, afterOrigin, hbody⟩ := Bytes.exists_ofUInt16 frame.body (by omega)
    have hkind : afterOrigin.head? = some kind.toByte := by
      rw [hbody, List.getElem?_append_right (by simp), Bytes.length_ofUInt16] at hbyte
      exact List.head?_eq_getElem?.trans hbyte
    obtain ⟨afterKind, rfl⟩ := List.head?_eq_some_iff.1 hkind
    have hfields := congrArg List.length hbody
    simp only [List.length_append, Bytes.length_ofUInt16, List.length_cons] at hfields
    obtain ⟨id, afterId, rfl⟩ := Bytes.exists_ofUInt16 afterKind (by omega)
    simp only [List.length_append, Bytes.length_ofUInt16] at hfields
    obtain ⟨command, rest, rfl⟩ := Bytes.exists_ofUInt16 afterId (by omega)
    have hhead : frame.body =
        Bytes.ofUInt16 origin ++ (addressBytes (⟨kind, id⟩, command) ++ rest) := by
      rw [hbody]
      simp [addressBytes]
    exact ⟨_, ofFrame_of_bytes hhead⟩

end UserMessage

namespace Client

open UserMessage (addressBytes)

/-! ## Sending -/

/-- The packet of a message is encoded as a frame of destination, command and body. -/
theorem encode_messagePacket (command : UInt16) {body : Packet} (destination : Destination)
    (hroom : body.payload.length ≤ 8182) :
    (messagePacket command (some body) destination).encode =
      Frame.encode ⟨FrameKind.builtin.toByte, Event.userMessage.code,
        addressBytes (destination, command) ++ body.payload⟩ := by
  have hwrites : messagePacket command (some body) destination =
      Item.writeAll [.value .uint8 destination.kind.toByte, .value .uint16 destination.id,
        .value .uint16 command, .raw body.payload] (requestPacket .userMessage) := rfl
  rw [hwrites, requestPacket]
  refine @Frame.encode_writeAll_forEvent ⟨_, _, _⟩ _ ?_ ?_ rfl ?_
  · simp [Item.allPrimitives, Item.primitives, Shape.primitives, Primitive.toBytes, addressBytes,
      Bytes.ofUInt16, Bytes.ofNat]
  · simp [Item.allPrimitives, Item.primitives, Shape.primitives]
  · rw [List.length_append, UserMessage.length_addressBytes]
    omega

variable {τ δ α : Type}

/-- Over a pipe that is open and takes something at a time, all that a client writes gets to the
other end. -/
theorem run_write_of_open (bytes : Bytes) {c : Client Pipe δ α} (hopen : ¬ c.transport.closed)
    (hlimit : c.transport.acceptLimit ≠ some 0) :
    ((write bytes).run.run c).1 = .ok () ∧
      ((write bytes).run.run c).2.transport.takeOutbound.1 =
        c.transport.takeOutbound.1 ++ bytes := by
  have hdelivered := Pipe.deliver_of_open bytes hopen hlimit
  constructor
  · rw [run_write]
    rcases hrun : (Transport.deliver bytes).run.run c.transport with ⟨e | ⟨⟩, transport⟩
    · rw [hrun] at hdelivered
      cases hdelivered
    · rfl
  · rw [transport_write, Pipe.takeOutbound_of_deliver bytes hdelivered]

/-- **User messages are read as they were written.**  For a body of up to 8182 bytes one frame is
written.  Behind any origin, what it holds is read as the message that was sent.  A frame is read as
a message exactly if it has a head with one of the four kinds of destination. -/
theorem messages_agree :
    (∀ (command : UInt16) (body : Packet) (destination : Destination),
      body.payload.length ≤ 8182 → ∃ sent rest : Bytes,
        Frame.encode ⟨FrameKind.builtin.toByte, Event.userMessage.code, rest⟩ = .ok sent ∧
        (∀ {τ δ α : Type} [Transport τ] (c : Client τ δ α), c.session.isConnected →
          (sendMessage command (some body) destination).run.run c = (write sent).run.run c) ∧
        (∀ {δ α : Type} (c : Client Pipe δ α), c.session.isConnected → ¬ c.transport.closed →
          c.transport.acceptLimit ≠ some 0 →
          ((sendMessage command (some body) destination).run.run c).1 = .ok () ∧
            ((sendMessage command (some body) destination).run.run c).2.transport.takeOutbound.1 =
              c.transport.takeOutbound.1 ++ sent) ∧
        ∀ (frame : Frame) (origin : SessionId),
          frame.body = Bytes.ofUInt16 origin.value ++ rest →
          ∃ message, UserMessage.ofFrame frame = .ok message ∧ message.frame = frame ∧
            message.origin = origin ∧ message.destination = destination ∧
            message.command = command ∧ message.body = body.payload) ∧
    ∀ frame : Frame,
      ((∃ message, UserMessage.ofFrame frame = .ok message) ↔
        7 ≤ frame.body.length ∧ ∃ kind ∈ frame.body[2]?, kind ≤ 3) ∧
      ∀ message, UserMessage.ofFrame frame = .ok message →
        message.frame = frame ∧ message.bytes = frame.body := by
  refine ⟨fun command body destination hroom => ?_, fun frame =>
    ⟨UserMessage.exists_ofFrame_iff frame, fun message => UserMessage.ofFrame_eq_ok_iff.1⟩⟩
  have hencode := encode_messagePacket command destination hroom
  have hlength : (addressBytes (destination, command) ++ body.payload).length ≤ 65533 := by
    rw [List.length_append, UserMessage.length_addressBytes]
    omega
  obtain ⟨sent, hsent⟩ := (Frame.exists_encode_iff ⟨_, _, _⟩).2 hlength
  rw [hsent] at hencode
  refine ⟨sent, _, hsent, ?_, ?_, ?_⟩
  · intro τ δ α _ c hconnected
    exact run_send_of_connected hconnected hencode
  · intro δ α c hconnected hopen hlimit
    rw [sendMessage, run_send_of_connected hconnected hencode]
    exact run_write_of_open sent hopen hlimit
  · intro frame origin hbody
    exact ⟨_, UserMessage.ofFrame_of_bytes hbody, rfl, rfl, rfl, rfl, UserMessage.body_eq hbody⟩

/-- A client that has started over a pipe which takes one byte at a time. -/
def chatting : Client Pipe FixedDirectory Unit :=
  ((start ⟨0⟩).run.run ((default : Builder).build (Credential.parse "cDpaRHBaVkhCclZraENOZz09")
    { Pipe.empty with acceptLimit := some 1 } ⟨some (.ofAddress "localhost" 7000)⟩ () ⟨0⟩)).2

/-- A message that fills its packet, for everyone in the lobby, and how another client reads it. -/
theorem messages_agree_full :
    let body : Packet := { Packet.empty with payload := List.replicate 8182 7 }
    body.fault = none ∧ body.payload.length ≤ 8182 ∧ ∃ sent rest : Bytes,
      Frame.encode ⟨FrameKind.builtin.toByte, Event.userMessage.code, rest⟩ = .ok sent ∧
      ((sendMessage 42 (some body) .lobby).run.run chatting).1 = .ok () ∧
      ((sendMessage 42 (some body) .lobby).run.run chatting).2.transport.takeOutbound.1 =
        chatting.transport.takeOutbound.1 ++ sent ∧
      ∃ message, UserMessage.ofFrame ⟨0x08, Event.onUserMessage.code, [0, 9] ++ rest⟩ =
          .ok message ∧
        message.origin = ⟨9⟩ ∧ message.destination = .lobby ∧ message.command = 42 ∧
        message.body = List.replicate 8182 7 ∧ message.bytes = [0, 9] ++ rest := by
  intro body
  have hroom : body.payload.length ≤ 8182 := Nat.le_of_eq List.length_replicate
  have hconnected : chatting.session.isConnected := by decide +kernel
  have hopen : ¬ chatting.transport.closed := by decide +kernel
  have hlimit : chatting.transport.acceptLimit ≠ some 0 := by decide +kernel
  obtain ⟨sent, rest, hsent, -, hpipe, hread⟩ := messages_agree.1 42 body .lobby hroom
  obtain ⟨hresult, hgot⟩ := hpipe chatting hconnected hopen hlimit
  obtain ⟨message, hmessage, -, horigin, hdestination, hcommand, hpayload⟩ :=
    hread ⟨0x08, Event.onUserMessage.code, [0, 9] ++ rest⟩ ⟨9⟩ rfl
  have hbytes : message.bytes = [0, 9] ++ rest := ((messages_agree.2 _).2 message hmessage).2
  exact ⟨rfl, hroom, sent, rest, hsent, hresult, hgot, message, hmessage, horigin, hdestination,
    hcommand, hpayload, hbytes⟩

end Client

end Multiplayer
