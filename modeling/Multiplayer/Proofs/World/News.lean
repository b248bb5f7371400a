import Multiplayer.Proofs.Wire.Spelling
import Multiplayer.World.Notification

/-!
# Notifications on the wire

What a server writes to tell a client about users and rooms, and that a client reads from it what
was meant.

* `AnnouncedUser`, `Snapshot`, `News` are what is told, `bytes` and `body` how it is written.
* `Snapshot.run_decoder`: a snapshot is read as the room that was meant, and nothing behind it is.
* `News.decode_body`: the body of an event is read as the notification that was written.
-/

namespace Multiplayer

open Decoder (Exact Reads ReadsLast)

/-! ## Users -/

/-- A user that can be written: in a room with a seat, or just in the lobby. -/
abbrev AnnouncedUser := { user : User // user.isInRoom ∨ user = .inLobby user.session }

namespace AnnouncedUser

/-- Session and status, and then the seat of a user in a room. -/
def bytes (user : AnnouncedUser) : Bytes :=
  Bytes.ofUInt16 user.1.session.value ++
    if user.1.isInRoom then 1 :: Bytes.ofUInt16 user.1.room.value ++ Bytes.ofUInt16 user.1.index
    else [0]

theorem reads_bytes (user : AnnouncedUser) : Reads User.decoder user.bytes user.1 := by
  obtain ⟨⟨session, status, room, index⟩, huser⟩ := user
  refine (Decoder.reads_uint16 session.value).bind ?_
  cases status with
  | inLobby =>
    have hstatus : Reads (Decoder.enumerated UserStatus.ofByte?) (Bytes.ofNat 1 (0 : UInt8).toNat)
        .inLobby := Decoder.reads_enumerated rfl
    have hlobby : User.mk session .inLobby room index = .inLobby session := by
      simpa [User.isInRoom] using huser
    exact hstatus.bind_pure (congrArg Pure.pure hlobby.symm)
  | inRoom =>
    have hstatus : Reads (Decoder.enumerated UserStatus.ofByte?) (Bytes.ofNat 1 (1 : UInt8).toNat)
        .inRoom := Decoder.reads_enumerated rfl
    refine hstatus.bind ?_
    exact (Decoder.reads_uint16 room.value).bind ((Decoder.reads_uint16 index).bind_pure rfl)

end AnnouncedUser

/-! ## Rooms -/

def RoomKind.toByte : RoomKind → UInt8
  | .normal => 0
  | .matchmade => 1

theorem RoomKind.ofByte?_eq_ok_iff (byte : UInt8) (kind : RoomKind) :
    ofByte? byte = .ok kind ↔ byte = kind.toByte := by
  unfold ofByte?
  by_cases hnormal : byte = 0
  · cases kind <;> simp [hnormal, toByte]
  · by_cases hmatchmade : byte = 1
    · cases kind <;> simp [hmatchmade, toByte]
    · cases kind <;> simp [hnormal, hmatchmade, toByte]

theorem RoomKind.exact_decoder : Exact (Decoder.enumerated ofByte?) fun kind => [kind.toByte] :=
  Decoder.exact_enumerated ofByte?_eq_ok_iff

/-- A session and its seat. -/
def seatBytes (seat : SessionId × UInt16) : Bytes :=
  Bytes.ofUInt16 seat.1.value ++ Bytes.ofUInt16 seat.2

theorem reads_seatBytes (seat : SessionId × UInt16) :
    Reads Room.seatDecoder (seatBytes seat) seat :=
  (Decoder.reads_uint16 seat.1.value).bind ((Decoder.reads_uint16 seat.2).bind_pure rfl)

theorem exact_seatDecoder : Exact Room.seatDecoder seatBytes := by
  refine .of_reads reads_seatBytes fun h => ?_
  obtain ⟨session, c₁, hsession, h⟩ := Attempt.run_bind_ok h
  obtain ⟨index, c₂, hindex, h⟩ := Attempt.run_bind_ok h
  cases h
  exact (Decoder.exact_uint16.1 hsession).append (Decoder.exact_uint16.1 hindex)

/-- One round of reading members. -/
theorem run_seatsDecoder (c : Cursor) :
    Room.seatsDecoder.run.run c =
      if c.isAtEnd then (.ok [], c)
      else
        match Room.seatDecoder.run.run c with
        | (.error e, c') => (.error e, c')
        | (.ok seat, c') =>
          if seat = Room.endOfMembers then (.ok [], c')
          else
            ((Room.seatsDecoder.run.run c').1.map (seat :: ·),
              (Room.seatsDecoder.run.run c').2) := by
  change Room.seatsDecoder c = _
  rw [Room.seatsDecoder]
  split
  · rfl
  · rcases Room.seatDecoder.run.run c with ⟨_ | seat, c'⟩
    · rfl
    · rfl

/-- What ends a list of members: the closing pair, or the end of the payload. -/
def seatsEnd (closed : Bool) : Bytes := if closed then seatBytes Room.endOfMembers else []

theorem not_isAtEnd_of_goesOver {c c' : Cursor} {seat : SessionId × UInt16}
    (h : c.GoesOver (seatBytes seat) c') : ¬ c.isAtEnd := by
  rw [Cursor.isAtEnd, List.isEmpty_iff, h.rest]
  exact nofun

/-- The members are read up to the closing pair or the end of the payload, and the cursor stands
right behind that. -/
theorem run_seatsDecoder_of_goesOver {seats : List (SessionId × UInt16)}
    (hseats : Room.endOfMembers ∉ seats) {closed : Bool} {c c' : Cursor}
    (hover : c.GoesOver (seats.flatMap seatBytes ++ seatsEnd closed) c')
    (hend : closed = false → c'.rest = []) : Room.seatsDecoder.run.run c = (.ok seats, c') := by
  induction seats generalizing c with
  | nil =>
    rw [List.flatMap_nil, List.nil_append] at hover
    rw [run_seatsDecoder]
    cases closed with
    | false =>
      obtain rfl := Cursor.goesOver_nil_iff.1 hover
      exact if_pos (List.isEmpty_iff.2 (hend rfl))
    | true =>
      rw [if_neg (not_isAtEnd_of_goesOver hover), exact_seatDecoder.2 hover]
      rfl
  | cons seat seats ih =>
    obtain ⟨hopen, hothers⟩ := List.ne_and_not_mem_of_not_mem_cons hseats
    rw [List.flatMap_cons, List.append_assoc, Cursor.goesOver_append_iff] at hover
    obtain ⟨c₁, hseat, hrest⟩ := hover
    rw [run_seatsDecoder, if_neg (not_isAtEnd_of_goesOver hseat), exact_seatDecoder.2 hseat]
    dsimp only
    rw [if_neg hopen.symm, ih hothers hrest]
    rfl

/-- What is written about a room: a head and any list of members without the closing pair, which
may follow it. -/
structure Snapshot where
  id : RoomId
  kind : RoomKind
  capacity : UInt16
  owner : SessionId
  seats : List (SessionId × UInt16)
  closed : Bool
  seats_open : Room.endOfMembers ∉ seats

namespace Snapshot

def bytes (snapshot : Snapshot) : Bytes :=
  Bytes.ofUInt16 snapshot.id.value ++ snapshot.kind.toByte :: Bytes.ofUInt16 snapshot.capacity ++
    Bytes.ofUInt16 snapshot.owner.value ++ snapshot.seats.flatMap seatBytes ++
    if snapshot.closed then seatBytes Room.endOfMembers else []

/-- The room that is meant, heard of at some time. -/
def room (snapshot : Snapshot) (createdAt : Instant) : Room :=
  snapshot.seats.foldl
    (fun room (session, index) => room.insert (.inRoom session snapshot.id index))
    (.empty snapshot.id snapshot.kind snapshot.capacity snapshot.owner createdAt)

theorem bytes_eq (snapshot : Snapshot) : snapshot.bytes =
    Bytes.ofUInt16 snapshot.id.value ++ ([snapshot.kind.toByte] ++
      (Bytes.ofUInt16 snapshot.capacity ++ (Bytes.ofUInt16 snapshot.owner.value ++
        (snapshot.seats.flatMap seatBytes ++ seatsEnd snapshot.closed)))) := by
  simp [bytes, seatsEnd]

/-- A snapshot is read as the room that is meant, and the cursor stands right behind it. -/
theorem run_decoder (snapshot : Snapshot) (createdAt : Instant) {c c' : Cursor}
    (hover : c.GoesOver snapshot.bytes c') (hend : snapshot.closed = false → c'.rest = []) :
    (Room.decoder createdAt).run.run c = (.ok (snapshot.room createdAt), c') := by
  rw [bytes_eq, Cursor.goesOver_append_iff] at hover
  obtain ⟨c₁, hid, hover⟩ := hover
  obtain ⟨c₂, hkind, hover⟩ := Cursor.goesOver_append_iff.1 hover
  obtain ⟨c₃, hcapacity, hover⟩ := Cursor.goesOver_append_iff.1 hover
  obtain ⟨c₄, howner, hseats⟩ := Cursor.goesOver_append_iff.1 hover
  calc (Room.decoder createdAt).run.run c
    _ = _ := Decoder.exact_uint16.run_bind hid
    _ = _ := RoomKind.exact_decoder.run_bind hkind
    _ = _ := Decoder.exact_uint16.run_bind hcapacity
    _ = _ := Decoder.exact_uint16.run_bind howner
    _ = _ := by
      rw [Attempt.run_bind, run_seatsDecoder_of_goesOver snapshot.seats_open hseats hend]
      rfl

theorem readsLast_bytes (snapshot : Snapshot) (createdAt : Instant) :
    ReadsLast (Room.decoder createdAt) snapshot.bytes (snapshot.room createdAt) := by
  intro position
  have hover : Cursor.GoesOver ⟨position, snapshot.bytes⟩ snapshot.bytes
      ⟨position + snapshot.bytes.length, []⟩ := ⟨(List.append_nil _).symm, rfl⟩
  exact congrArg Prod.fst (snapshot.run_decoder createdAt hover fun _ => rfl)

end Snapshot

/-! ## Notifications -/

/-- What is written about users and rooms. -/
inductive News where
  | userUpdated (user : AnnouncedUser)
  | userEntered (user : AnnouncedUser)
  | userExited (session : SessionId) (room : RoomId)
  | roomCreated (snapshot : Snapshot)
  | roomUpdated (snapshot : Snapshot)
  | roomRemoved (room : RoomId)
  | roomLocked (room : RoomId)
  | roomUnlocked (room : RoomId)

namespace News

def event : News → Event
  | .userUpdated _ => .onUserUpdated
  | .userEntered _ => .onUserEnteredRoom
  | .userExited .. => .onUserExitedRoom
  | .roomCreated _ => .onRoomCreated
  | .roomUpdated _ => .onRoomUpdated
  | .roomRemoved _ => .onRoomRemoved
  | .roomLocked _ => .onRoomLocked
  | .roomUnlocked _ => .onRoomUnlocked

def body : News → Bytes
  | .userUpdated user | .userEntered user => user.bytes
  | .userExited session room => Bytes.ofUInt16 session.value ++ Bytes.ofUInt16 room.value
  | .roomCreated snapshot | .roomUpdated snapshot => snapshot.bytes
  | .roomRemoved room | .roomLocked room | .roomUnlocked room => Bytes.ofUInt16 room.value

/-- The notification that is meant, rooms being heard of at some time. -/
def notification (now : Instant) : News → Notification
  | .userUpdated user => .userUpdated user.1
  | .userEntered user => .userEntered user.1
  | .userExited session room => .userExited session room
  | .roomCreated snapshot => .roomCreated (snapshot.room now)
  | .roomUpdated snapshot => .roomUpdated (snapshot.room now)
  | .roomRemoved room => .roomRemoved room
  | .roomLocked room => .roomLocked room
  | .roomUnlocked room => .roomUnlocked room

theorem event_mem (news : News) : news.event ∈ Notification.events := by
  cases news <;> simp [event, Notification.events]

theorem reads_roomId (room : RoomId) :
    Reads Notification.roomIdDecoder (Bytes.ofUInt16 room.value) room :=
  (Decoder.reads_uint16 room.value).bind_pure rfl

/-- A client has a decoder for the event, and it reads the body as what was meant. -/
theorem decode_body (news : News) (now : Instant) :
    ∃ decoder, Notification.decoder? now news.event = some decoder ∧
      decoder.decode news.body = .ok (news.notification now) := by
  cases news with
  | userUpdated user => exact ⟨_, rfl, (user.reads_bytes.map _).last.decode⟩
  | userEntered user => exact ⟨_, rfl, (user.reads_bytes.map _).last.decode⟩
  | userExited session room =>
    have hexit : Reads Notification.exitDecoder
        (Bytes.ofUInt16 session.value ++ Bytes.ofUInt16 room.value) (.userExited session room) :=
      (Decoder.reads_uint16 session.value).bind ((reads_roomId room).bind_pure rfl)
    exact ⟨_, rfl, hexit.last.decode⟩
  | roomCreated snapshot => exact ⟨_, rfl, ((snapshot.readsLast_bytes now).map _).decode⟩
  | roomUpdated snapshot => exact ⟨_, rfl, ((snapshot.readsLast_bytes now).map _).decode⟩
  | roomRemoved room => exact ⟨_, rfl, ((reads_roomId room).map _).last.decode⟩
  | roomLocked room => exact ⟨_, rfl, ((reads_roomId room).map _).last.decode⟩
  | roomUnlocked room => exact ⟨_, rfl, ((reads_roomId room).map _).last.decode⟩

end News

end Multiplayer
