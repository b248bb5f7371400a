import Multiplayer.Wire.Cursor
import Multiplayer.World.Identifier
import Multiplayer.World.Status

/-!
# Users

A user is a session and where it is.  A user in a room has a seat there; for a user in the lobby
room and seat are conventionally zero, but what the server announces about the own user is kept
as it is.
-/

namespace Multiplayer

/-- A session and where it is. -/
structure User where
  session : SessionId
  status : UserStatus
  room : RoomId
  index : UInt16
deriving DecidableEq, Repr, Inhabited

namespace User

def inLobby (session : SessionId) : User := ⟨session, .inLobby, ⟨0⟩, 0⟩

def inRoom (session : SessionId) (room : RoomId) (index : UInt16) : User :=
  ⟨session, .inRoom, room, index⟩

def isInRoom (user : User) : Bool := user.status = .inRoom

def leaveRoom (user : User) : User := inLobby user.session

/-- Reads a user: session and status, and for a user in a room also room and seat. -/
def decoder : Decoder User := do
  let session := SessionId.mk (← Decoder.uint16)
  match ← Decoder.enumerated UserStatus.ofByte? with
  | .inLobby => return inLobby session
  | .inRoom =>
    let room := RoomId.mk (← Decoder.uint16)
    return inRoom session room (← Decoder.uint16)

instance : Json.Document User where
  toJson user :=
    Json.Value.ofMembers
      [("session_id", Json.Document.toJson user.session),
        ("status", Json.Document.toJson user.status),
        ("room_id", Json.Document.toJson user.room),
        ("room_index", Json.Document.toJson user.index)]
  ofJson? value := do
    let [session, status, room, index] ←
      value.record? ["session_id", "status", "room_id", "room_index"] | none
    return ⟨← Json.required session, ← Json.required status, ← Json.required room,
      ← Json.required index⟩

end User

end Multiplayer
