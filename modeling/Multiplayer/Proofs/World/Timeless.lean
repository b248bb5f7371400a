import Multiplayer.Proofs.World.Seats

/-!
# Leaving times out

A room remembers when a client first heard of it.  What the operations on a lobby do otherwise
does not depend on that: they commute with forgetting all such times.

* `Lobby.timeless` forgets them.
* `Lobby.timeless_unseat`, `Lobby.timeless_adopt` and so on: one equation for each operation.
* `Notification.timeless_apply` is what a notification does.
-/

namespace Multiplayer

namespace Room

/-- The room as if it had been known from the start. -/
def timeless (room : Room) : Room := { room with createdAt := ⟨0⟩ }

end Room

namespace Lobby

/-- The lobby as if all its rooms had been known from the start. -/
def timeless (lobby : Lobby) : Lobby :=
  { lobby with rooms := lobby.rooms.map fun _ room => room.timeless }

/-! ## Rooms -/

theorem room?_timeless (lobby : Lobby) (id : RoomId) :
    lobby.timeless.room? id = (lobby.room? id).map Room.timeless :=
  Std.ExtTreeMap.getElem?_map

theorem knows_timeless (lobby : Lobby) (id : RoomId) : lobby.timeless.knows id = lobby.knows id :=
  Std.ExtTreeMap.contains_map

theorem user?_timeless (lobby : Lobby) (session : SessionId) :
    lobby.timeless.user? session = lobby.user? session := by
  unfold user?
  change (lobby.roomOf? session).bind (fun id => (lobby.timeless.room? id).bind _) =
    (lobby.roomOf? session).bind fun id => (lobby.room? id).bind _
  refine congrArg _ (funext fun id => ?_)
  rw [room?_timeless, Option.bind_map]
  rfl

section

variable (rooms : Std.ExtTreeMap RoomId Room) (id : RoomId)

theorem map_timeless_modify {f : Room → Room} (hf : ∀ room, (f room).timeless = f room.timeless) :
    (rooms.modify id f).map (fun _ room => room.timeless) =
      (rooms.map fun _ room => room.timeless).modify id f := by
  ext1 other
  rw [Std.ExtTreeMap.getElem?_map, getElem?_rooms_modify, getElem?_rooms_modify,
    Std.ExtTreeMap.getElem?_map]
  split
  · cases rooms[other]? with
    | none => rfl
    | some room => exact congrArg some (hf room)
  · rfl

theorem map_timeless_erase :
    (rooms.erase id).map (fun _ room => room.timeless) =
      (rooms.map fun _ room => room.timeless).erase id := by
  ext1 other
  simp only [Std.ExtTreeMap.getElem?_map, Std.ExtTreeMap.getElem?_erase]
  split <;> rfl

theorem map_timeless_insert (room : Room) :
    (rooms.insert id room).map (fun _ room => room.timeless) =
      (rooms.map fun _ room => room.timeless).insert id room.timeless := by
  ext1 other
  simp only [Std.ExtTreeMap.getElem?_map, Std.ExtTreeMap.getElem?_insert]
  split <;> rfl

end

/-! ## Seats -/

theorem timeless_unseat (lobby : Lobby) (session : SessionId) (id : RoomId) :
    (lobby.unseat session id).timeless = lobby.timeless.unseat session id := by
  have hrooms := map_timeless_modify lobby.rooms id (f := (·.remove session)) fun _ => rfl
  exact congrArg (fun rooms => { lobby.timeless.unseat session id with rooms }) hrooms

theorem timeless_leaveOther (lobby : Lobby) (session : SessionId) (id : RoomId) :
    (lobby.leaveOther session id).timeless = lobby.timeless.leaveOther session id := by
  have hseat : lobby.timeless.roomOf? session = lobby.roomOf? session := rfl
  unfold leaveOther
  rw [hseat]
  cases lobby.roomOf? session with
  | none => rfl
  | some prior =>
    dsimp only
    split
    · rfl
    · exact timeless_unseat ..

theorem timeless_seat (lobby : Lobby) (user : User) :
    (lobby.seat user).timeless = lobby.timeless.seat user := by
  unfold seat
  rw [← timeless_leaveOther]
  generalize lobby.leaveOther user.session user.room = lobby
  dsimp only
  rw [knows_timeless]
  split
  · have hrooms := map_timeless_modify lobby.rooms user.room (f := (·.insert user)) fun _ => rfl
    exact congrArg (fun rooms => { lobby with
      rooms, memberships := lobby.memberships.insert user.session user.room }) hrooms
  · rfl

theorem timeless_claim (id : RoomId) (lobby : Lobby) (session : SessionId) :
    (claim id lobby session).timeless = claim id lobby.timeless session := by
  unfold claim
  rw [← timeless_leaveOther]
  rfl

theorem timeless_foldl_claim (id : RoomId) (sessions : List SessionId) (lobby : Lobby) :
    (sessions.foldl (claim id) lobby).timeless = sessions.foldl (claim id) lobby.timeless := by
  induction sessions generalizing lobby with
  | nil => rfl
  | cons session sessions ih => rw [List.foldl_cons, ih, timeless_claim, List.foldl_cons]

/-- The last part of taking a snapshot over: its members are moved to it, and it is stored. -/
theorem timeless_adopted (lobby : Lobby) (room : Room) :
    let claimed := room.sessions.foldl (claim room.id) lobby
    let claimed' := room.sessions.foldl (claim room.id) lobby.timeless
    ({ claimed with
        selfUser := claimed.selfAfter room
        rooms := claimed.rooms.insert room.id room } : Lobby).timeless =
      { claimed' with
        selfUser := claimed'.selfAfter room.timeless
        rooms := claimed'.rooms.insert room.id room.timeless } := by
  intro claimed claimed'
  have hclaimed : claimed' = claimed.timeless := (timeless_foldl_claim ..).symm
  have hrooms := map_timeless_insert claimed.rooms room.id room
  rw [hclaimed]
  exact congrArg (fun rooms => { claimed with rooms, selfUser := claimed.selfAfter room }) hrooms

theorem timeless_adopt (lobby : Lobby) (room : Room) :
    (lobby.adopt room).timeless = lobby.timeless.adopt room.timeless := by
  have hold : lobby.timeless.room? room.timeless.id = (lobby.room? room.id).map Room.timeless :=
    room?_timeless ..
  have herased (memberships : Std.ExtTreeMap SessionId RoomId) :
      ({ lobby with memberships, rooms := lobby.rooms.erase room.id } : Lobby).timeless =
        { lobby.timeless with memberships, rooms := lobby.timeless.rooms.erase room.id } :=
    congrArg (fun rooms => { lobby with memberships, rooms }) (map_timeless_erase ..)
  unfold adopt
  rw [hold]
  cases lobby.room? room.id with
  | none =>
    have hend := timeless_adopted
      { lobby with rooms := lobby.rooms.erase room.id, memberships := lobby.memberships } room
    rw [herased] at hend
    exact hend
  | some old =>
    have hend := timeless_adopted
      { lobby with
        rooms := lobby.rooms.erase room.id
        memberships := unindex (old.sessions.filter (!room.contains ·)) lobby.memberships }
      { room with createdAt := old.createdAt }
    rw [herased] at hend
    exact hend

theorem timeless_setStatus (lobby : Lobby) (id : RoomId) (status : RoomStatus) :
    (lobby.setStatus id status).timeless = lobby.timeless.setStatus id status := by
  have hrooms := map_timeless_modify lobby.rooms id (f := ({ · with status })) fun _ => rfl
  exact congrArg (fun rooms => { lobby with rooms }) hrooms

/-! ## Operations -/

theorem timeless_identify (lobby : Lobby) (session : SessionId) :
    (lobby.identify session).timeless = lobby.timeless.identify session := by
  unfold identify
  rw [user?_timeless]
  rfl

theorem timeless_userUpdated (lobby : Lobby) (user : User) :
    (lobby.userUpdated user).timeless = lobby.timeless.userUpdated user := by
  have hself : lobby.timeless.isSelf user.session = lobby.isSelf user.session := rfl
  have htriggered : lobby.timeless.triggeredBy user = (lobby.triggeredBy user).timeless := rfl
  rw [userUpdated_eq, userUpdated_eq, hself, htriggered, knows_timeless, ← timeless_seat]
  split
  · rfl
  · split <;> rfl

theorem timeless_userEntered (lobby : Lobby) (user : User) :
    (lobby.userEntered user).timeless = lobby.timeless.userEntered user := by
  have hentered (lobby : Lobby) : ((lobby.timeless.room? user.room).map (·.seated user)) =
      (lobby.room? user.room).map (·.seated user) := by
    rw [room?_timeless, Option.map_map]
    rfl
  unfold userEntered
  dsimp only
  rw [← timeless_leaveOther, hentered]
  generalize lobby.leaveOther user.session user.room = lobby
  cases (lobby.room? user.room).map (·.seated user) with
  | none => rfl
  | some entered =>
    have hseat := timeless_seat
      { lobby with last := { lobby.last with enteredRoom := some user.room } } user
    exact congrArg (fun lobby : Lobby => ({ lobby with
      selfUser :=
        if lobby.isSelf user.session then
          { lobby.selfUser with status := .inRoom, room := user.room, index := entered.index }
        else lobby.selfUser
      last := { lobby.last with enteredUser := some entered, triggeredUser := some entered } } :
        Lobby)) hseat

theorem timeless_userExited (lobby : Lobby) (session : SessionId) (id : RoomId) :
    (lobby.userExited session id).timeless = lobby.timeless.userExited session id := by
  unfold userExited
  rw [← timeless_unseat, room?_timeless, Option.bind_map]
  rfl

theorem timeless_roomRemoved (lobby : Lobby) (id : RoomId) :
    (lobby.roomRemoved id).timeless = lobby.timeless.roomRemoved id := by
  have hroom (lobby : Lobby) : ({ lobby with
      last := { lobby.last with removedRoom := some id } } : Lobby).room? id = lobby.room? id := rfl
  have hrooms := map_timeless_erase lobby.rooms id
  unfold roomRemoved
  dsimp only
  rw [hroom, hroom, room?_timeless]
  cases lobby.room? id with
  | none => rfl
  | some room =>
    exact congrArg (fun rooms =>
      ({ lobby with rooms, last := _, memberships := _, selfUser := _ } : Lobby)) hrooms

end Lobby

namespace Notification

/-- The notification with the room, if there is one, as if it had been known from the start. -/
def timeless : Notification → Notification
  | .roomCreated room => .roomCreated room.timeless
  | .roomUpdated room => .roomUpdated room.timeless
  | notification => notification

theorem timeless_apply (lobby : Lobby) (notification : Notification) :
    (notification.apply lobby).timeless = notification.timeless.apply lobby.timeless := by
  cases notification with
  | userUpdated user => exact lobby.timeless_userUpdated user
  | userEntered user => exact lobby.timeless_userEntered user
  | userExited session room => exact lobby.timeless_userExited session room
  | roomCreated room => exact Lobby.timeless_adopt _ room
  | roomUpdated room => exact Lobby.timeless_adopt _ room
  | roomRemoved room => exact lobby.timeless_roomRemoved room
  | roomLocked room => exact Lobby.timeless_setStatus _ room .locked
  | roomUnlocked room => exact Lobby.timeless_setStatus _ room .unlocked

end Notification

end Multiplayer
