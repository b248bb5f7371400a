import Mathlib.Logic.Function.Basic
import Multiplayer.Proofs.World.Histories
import Multiplayer.Proofs.World.Users

/-!
# A lobby is a seating

Apart from the own user, what matters of a lobby is which rooms there are and who sits where.  This
is read off the members of the rooms, and every operation on a lobby is one simple change of it.

* `Seating` is what matters, and `Seating.after` what a notification should do to it.
* `Lobby.seating` reads it off a lobby; `Consistent.seat?_eq` says that the index gives the same.
* `head?_seat`, `head?_adopt` and so on: the rooms without their members.
* `ReachableBy.refines_seating` is the result.
-/

namespace Multiplayer

/-- What there is to a room besides its members. -/
structure RoomHead where
  id : RoomId
  kind : RoomKind
  status : RoomStatus
  capacity : UInt16
  owner : SessionId
  createdAt : Instant
deriving DecidableEq

def Room.head (room : Room) : RoomHead :=
  ⟨room.id, room.kind, room.status, room.capacity, room.owner, room.createdAt⟩

theorem Room.eq_of_head_eq {room room' : Room} (hhead : room.head = room'.head)
    (hmembers : ∀ session, room.member? session = room'.member? session) : room = room' := by
  obtain ⟨id, kind, status, capacity, owner, createdAt, members⟩ := room
  obtain ⟨id', kind', status', capacity', owner', createdAt', members'⟩ := room'
  obtain rfl : members = members' := Std.ExtTreeMap.ext_getElem? hmembers
  cases hhead
  rfl

theorem Room.head_foldl_insert (seats : List (SessionId × UInt16)) (room : Room) (id : RoomId) :
    (seats.foldl (fun room (session, index) => room.insert (.inRoom session id index))
      room).head = room.head := by
  induction seats generalizing room with
  | nil => rfl
  | cons seat seats ih => exact ih (room.insert (.inRoom seat.1 id seat.2))

/-- The room in which a user is, and its seat there. -/
def User.place (user : User) : RoomId × UInt16 := (user.room, user.index)

/-! ## Seatings -/

/-- The known rooms, and where each session sits, if it does. -/
@[ext] structure Seating where
  room? : RoomId → Option RoomHead
  seat? : SessionId → Option (RoomId × UInt16)

namespace Seating

def knows (s : Seating) (id : RoomId) : Bool := (s.room? id).isSome

/-- Whether a session sits in a room. -/
def isIn (s : Seating) (session : SessionId) (id : RoomId) : Bool :=
  (s.seat? session).any (·.1 = id)

/-- One session sits somewhere else, or nowhere, and all others where they were. -/
def move (s : Seating) (session : SessionId) (place? : Option (RoomId × UInt16)) : Seating :=
  { s with seat? := Function.update s.seat? session place? }

/-- A snapshot is taken over.  Its room is known then, since the time at which it was first heard
of.  Its members sit where it says, all others who sat in the room sit nowhere, and who sat in
another room still sits there. -/
def adopt (s : Seating) (room : Room) : Seating where
  room? := Function.update s.room? room.id (some { room.head with
    createdAt := ((s.room? room.id).map RoomHead.createdAt).getD room.createdAt })
  seat? session :=
    match room.member? session with
    | some member => some (room.id, member.index)
    | none => if s.isIn session room.id then none else s.seat? session

/-- A room is known no more, and who sat in it sits nowhere. -/
def close (s : Seating) (id : RoomId) : Seating where
  room? := Function.update s.room? id none
  seat? session := if s.isIn session id then none else s.seat? session

/-- A room that is known is locked or unlocked. -/
def mark (s : Seating) (id : RoomId) (status : RoomStatus) : Seating :=
  { s with room? := Function.update s.room? id ((s.room? id).map ({ · with status })) }

/-- What a notification should do, given who the own session is. -/
def after (own? : Option SessionId) (s : Seating) : Notification → Seating
  | .userUpdated user =>
    if own? ≠ some user.session ∧ user.isInRoom ∧ s.knows user.room then
      s.move user.session (some user.place)
    else s
  | .userEntered user => s.move user.session (if s.knows user.room then some user.place else none)
  | .userExited session id => if s.isIn session id then s.move session none else s
  | .roomCreated room | .roomUpdated room => s.adopt room
  | .roomRemoved id => s.close id
  | .roomLocked id => s.mark id .locked
  | .roomUnlocked id => s.mark id .unlocked

end Seating

namespace Lobby

/-! ## The seating of a lobby -/

/-- Where a session is found among the members of the rooms. -/
def seat? (lobby : Lobby) (session : SessionId) : Option (RoomId × UInt16) :=
  lobby.rooms.toList.findSome? fun (id, room) =>
    (room.member? session).map fun user => (id, user.index)

/-- A room without its members. -/
def head? (lobby : Lobby) (id : RoomId) : Option RoomHead := (lobby.room? id).map Room.head

def seating (lobby : Lobby) : Seating := ⟨lobby.head?, lobby.seat?⟩

namespace Consistent

variable {lobby : Lobby}

/-- No two rooms have the same session as member, so the first one that is found is the one that
the index has. -/
theorem seat?_eq (h : lobby.Consistent) (session : SessionId) :
    lobby.seat? session = (lobby.user? session).map User.place := by
  cases hseat : lobby.seat? session with
  | some place =>
    obtain ⟨⟨id, room⟩, hmem, hfound⟩ := List.exists_of_findSome?_eq_some hseat
    have hroom : lobby.room? id = some room :=
      Std.ExtTreeMap.mem_toList_iff_getElem?_eq_some.1 hmem
    obtain ⟨user, hmember, rfl⟩ := Option.map_eq_some_iff.1 hfound
    have hid : user.room = id :=
      (h.seated id room hroom session user hmember).2.2.trans (h.stored id room hroom)
    rw [h.user?_eq_some_iff.2 ⟨room, hid ▸ hroom, hmember⟩, Option.map_some, User.place, hid]
  | none =>
    cases huser : lobby.user? session with
    | none => rfl
    | some user =>
      obtain ⟨room, hroom, hmember⟩ := h.user?_eq_some_iff.1 huser
      have hmem : (user.room, room) ∈ lobby.rooms.toList :=
        Std.ExtTreeMap.mem_toList_iff_getElem?_eq_some.2 hroom
      have hnone := List.findSome?_eq_none_iff.1 hseat _ hmem
      simp [hmember] at hnone

/-- Where a session sits is what the members of the rooms say. -/
theorem seat?_eq_some_iff (h : lobby.Consistent) {session : SessionId} {id : RoomId}
    {index : UInt16} :
    lobby.seat? session = some (id, index) ↔
      ∃ room user, lobby.room? id = some room ∧ room.member? session = some user ∧
        user.index = index := by
  rw [h.seat?_eq]
  constructor
  · intro hplace
    obtain ⟨user, huser, hplace⟩ := Option.map_eq_some_iff.1 hplace
    obtain ⟨rfl, rfl⟩ := Prod.mk.inj hplace
    obtain ⟨room, hroom, hmember⟩ := h.user?_eq_some_iff.1 huser
    exact ⟨room, user, hroom, hmember, rfl⟩
  · rintro ⟨room, user, hroom, hmember, rfl⟩
    have hid : user.room = id :=
      (h.seated id room hroom session user hmember).2.2.trans (h.stored id room hroom)
    rw [h.user?_eq_some_iff.2 ⟨room, hid ▸ hroom, hmember⟩, Option.map_some, User.place, hid]

theorem isIn_seating (h : lobby.Consistent) {session : SessionId} {id : RoomId} :
    lobby.seating.isIn session id ↔ lobby.roomOf? session = some id := by
  rw [h.roomOf?_eq_map, Seating.isIn]
  change (lobby.seat? session).any _ ↔ _
  rw [h.seat?_eq]
  cases lobby.user? session with
  | none => simp
  | some user => simp [User.place]

theorem seating_eq (h : lobby.Consistent) {s : Seating} (hrooms : ∀ id, lobby.head? id = s.room? id)
    (hseats : ∀ session, (lobby.user? session).map User.place = s.seat? session) :
    lobby.seating = s := by
  refine Seating.ext (funext hrooms) (funext fun session => ?_)
  exact (h.seat?_eq session).trans (hseats session)

end Consistent

theorem knows_seating (lobby : Lobby) (id : RoomId) : lobby.seating.knows id = lobby.knows id := by
  rw [knows_eq_isSome]
  exact Option.isSome_map

/-! ## Rooms without their members -/

theorem map_head_map (room? : Option Room) {f : Room → Room}
    (h : ∀ room, (f room).head = room.head) :
    (room?.map f).map Room.head = room?.map Room.head := by
  rw [Option.map_map]
  exact congrArg (room?.map ·) (funext h)

theorem head?_unseat (lobby : Lobby) (session : SessionId) (id other : RoomId) :
    (lobby.unseat session id).head? other = lobby.head? other := by
  unfold head?
  rw [room?_unseat]
  split
  · exact map_head_map _ fun _ => rfl
  · rfl

theorem head?_leaveOther (lobby : Lobby) (session : SessionId) (id other : RoomId) :
    (lobby.leaveOther session id).head? other = lobby.head? other := by
  unfold head?
  rw [room?_leaveOther]
  split
  · exact map_head_map _ fun _ => rfl
  · rfl

theorem head?_seat (lobby : Lobby) (user : User) (other : RoomId) :
    (lobby.seat user).head? other = lobby.head? other := by
  by_cases hknows : lobby.knows user.room
  · unfold head?
    rw [room?_seat hknows]
    split
    · exact map_head_map _ fun _ => rfl
    · exact head?_leaveOther ..
  · rw [seat_of_not_knows hknows]
    exact head?_leaveOther ..

theorem head?_userEntered (lobby : Lobby) (user : User) (other : RoomId) :
    (lobby.userEntered user).head? other = lobby.head? other := by
  rw [← lobby.head?_leaveOther user.session user.room]
  unfold userEntered
  dsimp only
  generalize lobby.leaveOther user.session user.room = left
  cases left.room? user.room with
  | none => rfl
  | some room =>
    let noted : Lobby := { left with last := { left.last with enteredRoom := some user.room } }
    exact noted.head?_seat user other

theorem head?_userUpdated (lobby : Lobby) (user : User) (other : RoomId) :
    (lobby.userUpdated user).head? other = lobby.head? other := by
  rw [userUpdated_eq]
  split
  · rfl
  · split
    · exact head?_seat (lobby.triggeredBy user) user other
    · rfl

theorem head?_adopt {lobby : Lobby} (h : ∀ id, lobby.IndexedAt id) (room : Room)
    (other : RoomId) :
    (lobby.adopt room).head? other =
      if room.id = other then some (lobby.arrival room).head else lobby.head? other := by
  unfold head?
  rw [room?_adopt h]
  split
  · rfl
  · exact map_head_map _ fun _ => rfl

theorem head?_roomRemoved (lobby : Lobby) (id other : RoomId) :
    (lobby.roomRemoved id).head? other = if id = other then none else lobby.head? other := by
  unfold head?
  rw [room?_roomRemoved]
  split <;> rfl

theorem head?_setStatus (lobby : Lobby) (id other : RoomId) (status : RoomStatus) :
    (lobby.setStatus id status).head? other =
      if id = other then (lobby.head? other).map ({ · with status }) else lobby.head? other := by
  unfold head?
  rw [room?_setStatus]
  split
  · rw [Option.map_map, Option.map_map]
    rfl
  · rfl

/-! ## Operations -/

namespace Consistent

variable {lobby : Lobby}

theorem map_place_seated (h : lobby.Consistent) (user : User) :
    ((lobby.room? user.room).map (·.seated user)).map User.place =
      if lobby.knows user.room then some user.place else none := by
  rw [knows_eq_isSome]
  cases hroom : lobby.room? user.room with
  | none => rfl
  | some room =>
    change some (room.id, user.index) = some (user.room, user.index)
    rw [h.stored _ room hroom]

theorem seating_userEntered (h : lobby.Consistent) (user : User) :
    (lobby.userEntered user).seating =
      lobby.seating.after lobby.selfSession (.userEntered user) := by
  refine (h.userEntered user).seating_eq (lobby.head?_userEntered user) fun session => ?_
  rw [user?_userEntered]
  simp only [Seating.after, Seating.move, Function.update_apply, knows_seating]
  by_cases hsession : user.session = session
  · rw [if_pos hsession, if_pos hsession.symm]
    exact h.map_place_seated user
  · rw [if_neg hsession, if_neg (Ne.symm hsession)]
    exact (h.seat?_eq session).symm

theorem seating_userUpdated (h : lobby.Consistent) (user : User) :
    (lobby.userUpdated user).seating =
      lobby.seating.after lobby.selfSession (.userUpdated user) := by
  have hself : ¬ lobby.isSelf user.session ↔ lobby.selfSession ≠ some user.session := by
    simp [isSelf]
  refine (h.userUpdated user).seating_eq (fun id => ?_) fun session => ?_
  · rw [head?_userUpdated, Seating.after]
    split <;> rfl
  · rw [user?_userUpdated]
    simp only [Seating.after, knows_seating, hself]
    by_cases hmoves : lobby.selfSession ≠ some user.session ∧ user.isInRoom ∧ lobby.knows user.room
    · rw [if_pos hmoves]
      simp only [Seating.move, Function.update_apply]
      by_cases hsession : user.session = session
      · rw [if_pos ⟨hsession, hmoves⟩, if_pos hsession.symm, h.map_place_seated, if_pos hmoves.2.2]
      · rw [if_neg fun h => hsession h.1, if_neg (Ne.symm hsession)]
        exact (h.seat?_eq session).symm
    · rw [if_neg hmoves, if_neg fun h => hmoves h.2]
      exact (h.seat?_eq session).symm

theorem seating_userExited (h : lobby.Consistent) (gone : SessionId) (id : RoomId) :
    (lobby.userExited gone id).seating =
      lobby.seating.after lobby.selfSession (.userExited gone id) := by
  refine (h.userExited gone id).seating_eq (fun other => ?_) fun session => ?_
  · rw [Seating.after]
    split <;> exact lobby.head?_unseat gone id other
  · rw [user?_userExited, Seating.after]
    by_cases hin : lobby.roomOf? gone = some id
    · rw [if_pos (h.isIn_seating.2 hin)]
      simp only [Seating.move, Function.update_apply, hin, and_true]
      by_cases hsession : gone = session
      · rw [if_pos hsession, if_pos hsession.symm]
        rfl
      · rw [if_neg hsession, if_neg (Ne.symm hsession)]
        exact (h.seat?_eq session).symm
    · rw [if_neg fun h => hin h.2, if_neg (mt h.isIn_seating.1 hin)]
      exact (h.seat?_eq session).symm

/-- Who sat in a room sits nowhere, and all others as before. -/
theorem map_place_unseated (h : lobby.Consistent) (session : SessionId) (id : RoomId) :
    (if lobby.roomOf? session = some id then none else lobby.user? session).map User.place =
      if lobby.seating.isIn session id then none else lobby.seating.seat? session := by
  by_cases hin : lobby.roomOf? session = some id
  · rw [if_pos hin, if_pos (h.isIn_seating.2 hin)]
    rfl
  · rw [if_neg hin, if_neg (mt h.isIn_seating.1 hin)]
    exact (h.seat?_eq session).symm

theorem seating_adopt (h : lobby.Consistent) {room : Room} (hroom : room.WellSeated) :
    (lobby.adopt room).seating = lobby.seating.adopt room := by
  refine (h.adopt hroom).seating_eq (fun id => ?_) fun session => ?_
  · rw [head?_adopt h.indexedAt]
    simp only [Seating.adopt, Function.update_apply]
    by_cases hid : room.id = id
    · rw [if_pos hid, if_pos hid.symm]
      simp only [seating, head?, Option.map_map]
      rfl
    · rw [if_neg hid, if_neg (Ne.symm hid)]
      rfl
  · rw [user?_adopt h.indexedAt, Room.contains_eq_isSome]
    simp only [Seating.adopt]
    cases hmember : room.member? session with
    | some member =>
      change some member.place = some (room.id, member.index)
      rw [User.place, (hroom session member hmember).2.2]
    | none => exact h.map_place_unseated session room.id

theorem seating_roomRemoved (h : lobby.Consistent) (id : RoomId) :
    (lobby.roomRemoved id).seating = lobby.seating.close id := by
  refine (h.roomRemoved id).seating_eq (fun other => ?_) fun session => ?_
  · rw [head?_roomRemoved]
    simp only [Seating.close, Function.update_apply, @eq_comm _ id]
    rfl
  · rw [user?_roomRemoved (h.indexedAt id)]
    exact h.map_place_unseated session id

theorem seating_setStatus (h : lobby.Consistent) (id : RoomId) (status : RoomStatus) :
    (lobby.setStatus id status).seating = lobby.seating.mark id status := by
  refine (h.setStatus id status).seating_eq (fun other => ?_) fun session => ?_
  · rw [head?_setStatus]
    simp only [Seating.mark, Function.update_apply]
    by_cases hid : id = other
    · subst hid
      rw [if_pos rfl, if_pos rfl]
      rfl
    · rw [if_neg hid, if_neg (Ne.symm hid)]
      rfl
  · rw [user?_setStatus]
    exact (h.seat?_eq session).symm

theorem seating_apply (h : lobby.Consistent) {notification : Notification}
    (hseated : notification.WellSeated) :
    (notification.apply lobby).seating = lobby.seating.after lobby.selfSession notification := by
  cases notification with
  | userUpdated user => exact h.seating_userUpdated user
  | userEntered user => exact h.seating_userEntered user
  | userExited session id => exact h.seating_userExited session id
  | roomCreated room => exact (h.noted _).seating_adopt (hseated room rfl)
  | roomUpdated room => exact (h.noted _).seating_adopt (hseated room rfl)
  | roomRemoved id => exact h.seating_roomRemoved id
  | roomLocked id => exact (h.noted _).seating_setStatus id .locked
  | roomUnlocked id => exact (h.noted _).seating_setStatus id .unlocked

end Consistent

/-- **A lobby is a seating.**  In every lobby that there can be, a session has the seat that the
members of the rooms give it.  A notification changes the rooms and seats as it should and no
others, and a new own session or event changes none. -/
theorem ReachableBy.refines_seating {lobby : Lobby}
    (h : lobby.ReachableBy fun _ notification => notification.WellSeated) :
    (∀ session id index, lobby.seating.seat? session = some (id, index) ↔
      ∃ room user, lobby.room? id = some room ∧ room.member? session = some user ∧
        user.index = index) ∧
    (∀ notification : Notification, notification.WellSeated →
      (notification.apply lobby).seating =
        lobby.seating.after lobby.selfSession notification) ∧
    (∀ session, (lobby.identify session).seating = lobby.seating) ∧
    ∀ code, (lobby.beginEvent code).seating = lobby.seating := by
  have hconsistent : lobby.Consistent := h.consistent fun _ _ hseated => hseated
  refine ⟨fun session id index => hconsistent.seat?_eq_some_iff, fun notification hseated => ?_,
    fun _ => rfl, fun _ => rfl⟩
  exact hconsistent.seating_apply hseated

/-- A room whose members have sat in two others. -/
def gathering : Room :=
  ((Room.empty ⟨3⟩ .normal 4 ⟨5⟩ ⟨0⟩).insert (.inRoom ⟨5⟩ ⟨3⟩ 1)).insert (.inRoom ⟨6⟩ ⟨3⟩ 2)

theorem refines_seating_gathering :
    let lobby := afterMove.userEntered (.inRoom ⟨6⟩ ⟨1⟩ 3)
    lobby.ReachableBy (fun _ notification => notification.WellSeated) ∧
      (Notification.roomCreated gathering).WellSeated ∧
      lobby.seat? ⟨5⟩ = some (⟨2⟩, 0) ∧ lobby.seat? ⟨6⟩ = some (⟨1⟩, 3) ∧
      (lobby.roomCreated gathering).seat? ⟨5⟩ = some (⟨3⟩, 1) ∧
      (lobby.roomCreated gathering).seat? ⟨6⟩ = some (⟨3⟩, 2) := by
  have hentered := afterMove_reachable.reachableBy.apply (.userEntered (.inRoom ⟨6⟩ ⟨1⟩ 3))
    (by rintro room ⟨⟩)
  have hgathering : (Notification.roomCreated gathering).WellSeated := by
    rintro room ⟨⟩
    exact ((Room.wellSeated_empty _ _ _ _ _).insert _).insert _
  have hafter := hentered.refines_seating.2.1 (.roomCreated gathering) hgathering
  have hseat := congrFun (congrArg Seating.seat? hafter)
  refine ⟨hentered, hgathering, by decide +kernel, by decide +kernel, ?_, ?_⟩
  · exact (hseat ⟨5⟩).trans (by decide +kernel)
  · exact (hseat ⟨6⟩).trans (by decide +kernel)

end Lobby

end Multiplayer
