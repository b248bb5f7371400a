import Multiplayer.Time.Instant
import Multiplayer.World.User
import Std.Data.ExtTreeMap

/-!
# Rooms

A room has its members in the order of their sessions.  Every member is entered as a user in this
room, whatever was said about it before.

* `Room.insert` and `Room.remove` are the only ways to change the members.
* `Room.decoder` reads a snapshot: a head and then pairs of session and seat, up to the pair of
  all ones or the end of the payload.
-/

namespace Multiplayer

structure Room where
  id : RoomId
  kind : RoomKind
  status : RoomStatus
  capacity : UInt16
  owner : SessionId
  /-- When this client first heard of the room. -/
  createdAt : Instant
  members : Std.ExtTreeMap SessionId User

namespace Room

def empty (id : RoomId) (kind : RoomKind) (capacity : UInt16) (owner : SessionId)
    (createdAt : Instant) : Room :=
  ⟨id, kind, .unlocked, capacity, owner, createdAt, ∅⟩

/-! ## Members -/

def member? (room : Room) (session : SessionId) : Option User := room.members[session]?

def contains (room : Room) (session : SessionId) : Bool := room.members.contains session

/-- The sessions of the members, in order. -/
def sessions (room : Room) : List SessionId := room.members.keys

def isFull (room : Room) : Bool := room.capacity.toNat ≤ room.members.size

def isLocked (room : Room) : Bool := room.status = .locked

/-- A user as a member of this room. -/
def seated (room : Room) (user : User) : User :=
  { user with status := .inRoom, room := room.id }

/-- The room with a user as member. -/
def insert (room : Room) (user : User) : Room :=
  { room with members := room.members.insert user.session (room.seated user) }

def remove (room : Room) (session : SessionId) : Room :=
  { room with members := room.members.erase session }

/-! ## Snapshots -/

/-- The pair of session and seat that ends a list of members. -/
def endOfMembers : SessionId × UInt16 := (⟨0xffff⟩, 0xffff)

def seatDecoder : Decoder (SessionId × UInt16) := do
  let session := SessionId.mk (← Decoder.uint16)
  return (session, ← Decoder.uint16)

theorem length_rest_of_seatDecoder {c c' : Cursor} {seat : SessionId × UInt16}
    (h : seatDecoder.run.run c = (.ok seat, c')) : c'.rest.length < c.rest.length := by
  obtain ⟨session, c₁, h₁, h⟩ := Attempt.run_bind_ok h
  obtain ⟨index, c₂, h₂, h⟩ := Attempt.run_bind_ok h
  cases h
  have := Decoder.length_rest_of_uint16 h₁
  have := Decoder.length_rest_of_uint16 h₂
  omega

/-- Reads pairs of session and seat up to the closing pair or the end of the payload. -/
def seatsDecoder : Decoder (List (SessionId × UInt16)) := fun c =>
  if c.isAtEnd then (.ok [], c)
  else
    match _h : seatDecoder.run.run c with
    | (.error e, c') => (.error e, c')
    | (.ok seat, c') =>
      if seat = endOfMembers then (.ok [], c')
      else
        let (seats, c'') := seatsDecoder c'
        (seats.map (seat :: ·), c'')
termination_by c => c.rest.length
decreasing_by exact length_rest_of_seatDecoder _h

/-- Reads a snapshot.  Of several pairs with one session the last one counts. -/
def decoder (createdAt : Instant) : Decoder Room := do
  let id := RoomId.mk (← Decoder.uint16)
  let kind ← Decoder.enumerated RoomKind.ofByte?
  let capacity ← Decoder.uint16
  let owner := SessionId.mk (← Decoder.uint16)
  let seats ← seatsDecoder
  return seats.foldl (fun room (session, index) => room.insert (.inRoom session id index))
    (.empty id kind capacity owner createdAt)

end Room

end Multiplayer
