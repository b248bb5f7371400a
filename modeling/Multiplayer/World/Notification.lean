import Multiplayer.Message.Event
import Multiplayer.World.Lobby

/-!
# Notifications about the world

Eight events tell about users and rooms.  Each has a body format and does one operation on the
lobby.
-/

namespace Multiplayer

/-- What the server can tell about users and rooms. -/
inductive Notification where
  | userUpdated (user : User)
  | userEntered (user : User)
  | userExited (session : SessionId) (room : RoomId)
  | roomCreated (room : Room)
  | roomUpdated (room : Room)
  | roomRemoved (room : RoomId)
  | roomLocked (room : RoomId)
  | roomUnlocked (room : RoomId)

namespace Notification

/-- The events that are notifications about the world. -/
def events : List Event :=
  [.onUserUpdated, .onUserEnteredRoom, .onUserExitedRoom, .onRoomCreated, .onRoomUpdated,
    .onRoomRemoved, .onRoomLocked, .onRoomUnlocked]

def roomIdDecoder : Decoder RoomId := return ⟨← Decoder.uint16⟩

/-- Reads a session and the room that it left. -/
def exitDecoder : Decoder Notification := do
  let session := SessionId.mk (← Decoder.uint16)
  return .userExited session (← roomIdDecoder)

/-- How the body of an event is read; rooms are heard of at `now`. -/
def decoder? (now : Instant) : Event → Option (Decoder Notification)
  | .onUserUpdated => some (userUpdated <$> User.decoder)
  | .onUserEnteredRoom => some (userEntered <$> User.decoder)
  | .onUserExitedRoom => some exitDecoder
  | .onRoomCreated => some (roomCreated <$> Room.decoder now)
  | .onRoomUpdated => some (roomUpdated <$> Room.decoder now)
  | .onRoomRemoved => some (roomRemoved <$> roomIdDecoder)
  | .onRoomLocked => some (roomLocked <$> roomIdDecoder)
  | .onRoomUnlocked => some (roomUnlocked <$> roomIdDecoder)
  | _ => none

def apply (lobby : Lobby) : Notification → Lobby
  | .userUpdated user => lobby.userUpdated user
  | .userEntered user => lobby.userEntered user
  | .userExited session room => lobby.userExited session room
  | .roomCreated room => lobby.roomCreated room
  | .roomUpdated room => lobby.roomUpdated room
  | .roomRemoved room => lobby.roomRemoved room
  | .roomLocked room => lobby.roomLocked room
  | .roomUnlocked room => lobby.roomUnlocked room

end Notification

end Multiplayer
