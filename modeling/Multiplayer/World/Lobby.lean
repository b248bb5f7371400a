import Multiplayer.World.Room

/-!
# The lobby

The lobby holds the rooms that the server has told about, and the own user.  An index from
sessions to rooms goes with the member maps, so that a user is found without a search, and so that
a user who turns up in one room is taken out of another.

* Each operation is what one notification of the server does.
* `EventRecord` says what the operations since `beginEvent` have touched.
-/

namespace Multiplayer

/-- What the current event has touched. -/
structure EventRecord where
  code : Option UInt16 := none
  createdRoom : Option RoomId := none
  updatedRoom : Option RoomId := none
  removedRoom : Option RoomId := none
  enteredRoom : Option RoomId := none
  exitedRoom : Option RoomId := none
  lockedRoom : Option RoomId := none
  unlockedRoom : Option RoomId := none
  enteredUser : Option User := none
  exitedUser : Option User := none
  triggeredUser : Option User := none
deriving DecidableEq, Repr, Inhabited

/-- The known rooms, who sits where, and the own user. -/
structure Lobby where
  rooms : Std.ExtTreeMap RoomId Room
  /-- The room of each seated session. -/
  memberships : Std.ExtTreeMap SessionId RoomId
  /-- The own session, once the server has assigned it. -/
  selfSession : Option SessionId
  selfUser : User
  last : EventRecord

namespace Lobby

/-- A lobby that has heard of nothing. -/
def empty : Lobby := ⟨∅, ∅, none, default, {}⟩

instance : Inhabited Lobby := ⟨empty⟩

/-! ## Questions -/

def room? (lobby : Lobby) (id : RoomId) : Option Room := lobby.rooms[id]?

def knows (lobby : Lobby) (id : RoomId) : Bool := lobby.rooms.contains id

/-- The room in which a session is seated. -/
def roomOf? (lobby : Lobby) (session : SessionId) : Option RoomId := lobby.memberships[session]?

/-- The seated user of a session. -/
def user? (lobby : Lobby) (session : SessionId) : Option User := do
  let id ← lobby.roomOf? session
  let room ← lobby.room? id
  room.member? session

def isSelf (lobby : Lobby) (session : SessionId) : Bool := lobby.selfSession = some session

/-! ## Seats -/

/-- The index without some sessions. -/
def unindex (sessions : List SessionId) (memberships : Std.ExtTreeMap SessionId RoomId) :
    Std.ExtTreeMap SessionId RoomId :=
  sessions.foldl (fun memberships session => memberships.erase session) memberships

/-- Takes a session out of a room, and out of the index if the index has it there. -/
def unseat (lobby : Lobby) (session : SessionId) (id : RoomId) : Lobby :=
  { lobby with
    memberships :=
      if lobby.roomOf? session = some id then lobby.memberships.erase session
      else lobby.memberships
    rooms := lobby.rooms.modify id (·.remove session) }

/-- Takes a session out of the room in which it is seated, unless that is the given one. -/
def leaveOther (lobby : Lobby) (session : SessionId) (id : RoomId) : Lobby :=
  match lobby.roomOf? session with
  | some prior => if prior = id then lobby else lobby.unseat session prior
  | none => lobby

/-- Seats a user in its room, if that is known, and nowhere else. -/
def seat (lobby : Lobby) (user : User) : Lobby :=
  let lobby := lobby.leaveOther user.session user.room
  if lobby.knows user.room then
    { lobby with
      rooms := lobby.rooms.modify user.room (·.insert user)
      memberships := lobby.memberships.insert user.session user.room }
  else lobby

/-- Moves a session of a snapshot from wherever it is seated to the room of the snapshot, as far
as the index and other rooms go. -/
def claim (id : RoomId) (lobby : Lobby) (session : SessionId) : Lobby :=
  let lobby := lobby.leaveOther session id
  { lobby with memberships := lobby.memberships.insert session id }

/-- The own user once the members of a room are known: the member, if it is one, and else a user
who is not in that room. -/
def selfAfter (lobby : Lobby) (room : Room) : User :=
  match lobby.selfSession.bind room.member? with
  | some member => member
  | none =>
    if lobby.selfUser.room = room.id && lobby.selfUser.isInRoom then lobby.selfUser.leaveRoom
    else lobby.selfUser

/-- Takes a snapshot of a room over: a known room keeps the time at which it was first heard of,
members that the snapshot does not have are no longer seated, and those that it has are seated
here only. -/
def adopt (lobby : Lobby) (room : Room) : Lobby :=
  let (room, memberships) := match lobby.room? room.id with
    | some old =>
      ({ room with createdAt := old.createdAt },
        unindex (old.sessions.filter (!room.contains ·)) lobby.memberships)
    | none => (room, lobby.memberships)
  let lobby := { lobby with memberships, rooms := lobby.rooms.erase room.id }
  let lobby := room.sessions.foldl (claim room.id) lobby
  { lobby with selfUser := lobby.selfAfter room, rooms := lobby.rooms.insert room.id room }

def setStatus (lobby : Lobby) (id : RoomId) (status : RoomStatus) : Lobby :=
  { lobby with rooms := lobby.rooms.modify id ({ · with status }) }

/-! ## Operations -/

/-- Starts an event: only its code is on record. -/
def beginEvent (lobby : Lobby) (code : UInt16) : Lobby :=
  { lobby with last := { code := some code } }

/-- Learns the own session.  The own user is the seated user of that session, or in the lobby. -/
def identify (lobby : Lobby) (session : SessionId) : Lobby :=
  { lobby with
    selfSession := some session
    selfUser := (lobby.user? session).getD (.inLobby session) }

/-- A user has changed.  What is said about the own user is believed as it is; another user is
seated if it is in a known room. -/
def userUpdated (lobby : Lobby) (user : User) : Lobby :=
  let lobby := { lobby with last := { lobby.last with triggeredUser := some user } }
  if lobby.isSelf user.session then { lobby with selfUser := user }
  else if user.isInRoom && lobby.knows user.room then lobby.seat user
  else lobby

/-- A user has entered a room.  It leaves every other room, even if the room is unknown. -/
def userEntered (lobby : Lobby) (user : User) : Lobby :=
  let id := user.room
  let lobby := lobby.leaveOther user.session id
  let entered := (lobby.room? id).map (·.seated user)
  let lobby := match entered with
    | some _ =>
      let lobby := { lobby with last := { lobby.last with enteredRoom := some id } }
      lobby.seat user
    | none => { lobby with memberships := lobby.memberships.erase user.session }
  let selfUser :=
    if lobby.isSelf user.session then
      { lobby.selfUser with
        status := .inRoom
        room := id
        index := (entered.map User.index).getD lobby.selfUser.index }
    else lobby.selfUser
  { lobby with
    selfUser
    last := { lobby.last with enteredUser := entered, triggeredUser := entered } }

def userExited (lobby : Lobby) (session : SessionId) (id : RoomId) : Lobby :=
  let exited := ((lobby.room? id).bind (·.member? session)).map User.leaveRoom
  let exited := some (exited.getD (.inLobby session))
  let lobby := lobby.unseat session id
  let selfUser :=
    if lobby.isSelf session && lobby.selfUser.room = id then lobby.selfUser.leaveRoom
    else lobby.selfUser
  { lobby with
    selfUser
    last := { lobby.last with exitedRoom := some id, exitedUser := exited, triggeredUser := exited } }

def roomCreated (lobby : Lobby) (room : Room) : Lobby :=
  { lobby with last := { lobby.last with createdRoom := some room.id } }.adopt room

def roomUpdated (lobby : Lobby) (room : Room) : Lobby :=
  { lobby with last := { lobby.last with updatedRoom := some room.id } }.adopt room

/-- A room is gone, and its members are no longer seated. -/
def roomRemoved (lobby : Lobby) (id : RoomId) : Lobby :=
  let lobby := { lobby with last := { lobby.last with removedRoom := some id } }
  match lobby.room? id with
  | none => lobby
  | some room =>
    { lobby with
      rooms := lobby.rooms.erase id
      memberships := unindex room.sessions lobby.memberships
      selfUser :=
        if lobby.selfUser.room = id && lobby.selfUser.isInRoom then lobby.selfUser.leaveRoom
        else lobby.selfUser }

def roomLocked (lobby : Lobby) (id : RoomId) : Lobby :=
  { lobby with last := { lobby.last with lockedRoom := some id } }.setStatus id .locked

def roomUnlocked (lobby : Lobby) (id : RoomId) : Lobby :=
  { lobby with last := { lobby.last with unlockedRoom := some id } }.setStatus id .unlocked

end Lobby

end Multiplayer
