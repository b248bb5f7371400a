import Multiplayer.Json.Document
import Multiplayer.Wire.Error

/-!
# Where users are and what rooms are like

Three enumerations with a byte on the wire, a name in documents and a label for people.  The first
case of each is its default.
-/

namespace Multiplayer

inductive UserStatus where
  | inLobby
  | inRoom
deriving DecidableEq, Repr, Inhabited

namespace UserStatus

def ofByte? (value : UInt8) : Except WireError UserStatus :=
  if value = 0 then .ok .inLobby
  else if value = 1 then .ok .inRoom
  else .error (.unknownValue .userStatus value)

def label : UserStatus → String
  | .inLobby => "in lobby"
  | .inRoom => "in room"

def name : UserStatus → String
  | .inLobby => "InLobby"
  | .inRoom => "InRoom"

instance : Json.Document UserStatus where
  toJson status := Json.Value.ofText status.name
  ofJson? := Json.Value.case? ([.inLobby, .inRoom].map fun status => (status.name, status))

end UserStatus

/-- How a room came to be. -/
inductive RoomKind where
  /-- A user made it. -/
  | normal
  /-- The server made it for users that asked for a match. -/
  | matchmade
deriving DecidableEq, Repr, Inhabited

namespace RoomKind

def ofByte? (value : UInt8) : Except WireError RoomKind :=
  if value = 0 then .ok .normal
  else if value = 1 then .ok .matchmade
  else .error (.unknownValue .roomKind value)

def label : RoomKind → String
  | .normal => "normal"
  | .matchmade => "match"

def name : RoomKind → String
  | .normal => "Normal"
  | .matchmade => "Match"

instance : Json.Document RoomKind where
  toJson kind := Json.Value.ofText kind.name
  ofJson? := Json.Value.case? ([.normal, .matchmade].map fun kind => (kind.name, kind))

end RoomKind

/-- Whether a room lets users in. -/
inductive RoomStatus where
  | unlocked
  | locked
deriving DecidableEq, Repr, Inhabited

namespace RoomStatus

def ofByte? (value : UInt8) : Except WireError RoomStatus :=
  if value = 0 then .ok .unlocked
  else if value = 1 then .ok .locked
  else .error (.unknownValue .roomStatus value)

def label : RoomStatus → String
  | .unlocked => "open"
  | .locked => "locked"

def name : RoomStatus → String
  | .unlocked => "Open"
  | .locked => "Locked"

instance : Json.Document RoomStatus where
  toJson status := Json.Value.ofText status.name
  ofJson? := Json.Value.case? ([.unlocked, .locked].map fun status => (status.name, status))

end RoomStatus

end Multiplayer
