/-!
# Event codes

A 16-bit code says what a message is about.  Codes with the top bit are notifications of the
server, the others are requests of a client.
-/

namespace Multiplayer

/-- The events with a fixed meaning. -/
inductive Event where
  | userValue
  | userMessage
  | roomCreate
  | roomEnter
  | roomExit
  | roomLock
  | roomUnlock
  | roomMatch
  | roomBroadcast
  | onUserUpdated
  | onUserEmoji
  | onUserEnteredRoom
  | onUserExitedRoom
  | onUserValue
  | onUserMessage
  | onRoomCreated
  | onRoomUpdated
  | onRoomRemoved
  | onRoomLocked
  | onRoomUnlocked
  | onRoomUserMessage
  | onErrorServer
  | onErrorClient
deriving DecidableEq, Repr

namespace Event

def all : List Event :=
  [.userValue, .userMessage, .roomCreate, .roomEnter, .roomExit, .roomLock, .roomUnlock,
    .roomMatch, .roomBroadcast, .onUserUpdated, .onUserEmoji, .onUserEnteredRoom,
    .onUserExitedRoom, .onUserValue, .onUserMessage, .onRoomCreated, .onRoomUpdated,
    .onRoomRemoved, .onRoomLocked, .onRoomUnlocked, .onRoomUserMessage, .onErrorServer,
    .onErrorClient]

def code : Event → UInt16
  | .userValue => 0x00fe
  | .userMessage => 0x00ff
  | .roomCreate => 0x0100
  | .roomEnter => 0x0101
  | .roomExit => 0x0102
  | .roomLock => 0x0103
  | .roomUnlock => 0x0104
  | .roomMatch => 0x0110
  | .roomBroadcast => 0x01ff
  | .onUserUpdated => 0x8000
  | .onUserEmoji => 0x8001
  | .onUserEnteredRoom => 0x8002
  | .onUserExitedRoom => 0x8003
  | .onUserValue => 0x80fe
  | .onUserMessage => 0x80ff
  | .onRoomCreated => 0x8100
  | .onRoomUpdated => 0x8101
  | .onRoomRemoved => 0x8102
  | .onRoomLocked => 0x8103
  | .onRoomUnlocked => 0x8104
  | .onRoomUserMessage => 0x81ff
  | .onErrorServer => 0x8ffe
  | .onErrorClient => 0x8fff

def name : Event → String
  | .userValue => "user_value"
  | .userMessage => "user_message"
  | .roomCreate => "room_create"
  | .roomEnter => "room_enter"
  | .roomExit => "room_exit"
  | .roomLock => "room_lock"
  | .roomUnlock => "room_unlock"
  | .roomMatch => "room_match"
  | .roomBroadcast => "room_broadcast"
  | .onUserUpdated => "on_user_updated"
  | .onUserEmoji => "on_user_emoji"
  | .onUserEnteredRoom => "on_user_entered_room"
  | .onUserExitedRoom => "on_user_exited_room"
  | .onUserValue => "on_user_value"
  | .onUserMessage => "on_user_message"
  | .onRoomCreated => "on_room_created"
  | .onRoomUpdated => "on_room_updated"
  | .onRoomRemoved => "on_room_removed"
  | .onRoomLocked => "on_room_locked"
  | .onRoomUnlocked => "on_room_unlocked"
  | .onRoomUserMessage => "on_room_user_message"
  | .onErrorServer => "on_error_server"
  | .onErrorClient => "on_error_client"

def ofCode? (code : UInt16) : Option Event := all.find? (·.code = code)

/-- Whether a code is a notification of the server. -/
def isNotification (code : UInt16) : Bool := 0x8000 ≤ code

theorem mem_all (event : Event) : event ∈ all := by cases event <;> decide

theorem code_injective {a b : Event} (h : a.code = b.code) : a = b := by
  revert h
  cases a <;> cases b <;> decide

theorem ofCode?_code (event : Event) : ofCode? event.code = some event := by
  cases event <;> rfl

end Event

end Multiplayer
