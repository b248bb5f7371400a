import Multiplayer.Proofs.World.Consistency

/-!
# Seated users

A user is found through the index and the members of one room.  Here is what the operations on a
lobby do to that look-up: each changes it at the sessions that it is about, and at no other.

* `user?_unseat`, `user?_seat`, `user?_adopt` and so on: the look-up after an operation.
* `Consistent.user?_eq_some_iff`: in a consistent lobby the members of the rooms are what is found.
-/

namespace Multiplayer.Lobby

theorem user?_of_roomOf? {lobby : Lobby} {session : SessionId} {id : RoomId}
    (h : lobby.roomOf? session = some id) :
    lobby.user? session = (lobby.room? id).bind (·.member? session) := by
  unfold user?
  rw [h]
  rfl

theorem user?_of_not_seated {lobby : Lobby} {session : SessionId}
    (h : lobby.roomOf? session = none) : lobby.user? session = none := by
  unfold user?
  rw [h]
  rfl

/-- A session is found as before if it is indexed as before, and if the change of its room is not
about it. -/
theorem user?_eq_of_same {lobby lobby' : Lobby} {session : SessionId}
    (hindex : lobby'.roomOf? session = lobby.roomOf? session)
    (hroom : ∀ id, lobby.roomOf? session = some id →
      (lobby'.room? id).bind (·.member? session) = (lobby.room? id).bind (·.member? session)) :
    lobby'.user? session = lobby.user? session := by
  cases hseated : lobby.roomOf? session with
  | none => rw [user?_of_not_seated hseated, user?_of_not_seated (hindex.trans hseated)]
  | some id =>
    rw [user?_of_roomOf? hseated, user?_of_roomOf? (hindex.trans hseated), hroom id hseated]

theorem bind_member?_map (room? : Option Room) {f : Room → Room} {session : SessionId}
    (h : ∀ room, (f room).member? session = room.member? session) :
    (room?.map f).bind (·.member? session) = room?.bind (·.member? session) := by
  cases room? with
  | none => rfl
  | some room => exact h room

/-! ## Moving a session -/

theorem user?_unseat (lobby : Lobby) (session other : SessionId) (id : RoomId) :
    (lobby.unseat session id).user? other =
      if session = other ∧ lobby.roomOf? session = some id then none else lobby.user? other := by
  have hindex := roomOf?_unseat lobby session other id
  by_cases hmoved : session = other ∧ lobby.roomOf? session = some id
  · rw [if_pos hmoved] at hindex ⊢
    exact user?_of_not_seated hindex
  · rw [if_neg hmoved] at hindex ⊢
    refine user?_eq_of_same hindex fun seat hseat => ?_
    rw [room?_unseat]
    split
    · rename_i hid
      refine bind_member?_map _ fun room => ?_
      rw [Room.member?_remove, if_neg]
      rintro rfl
      exact hmoved ⟨rfl, hid ▸ hseat⟩
    · rfl

theorem user?_leaveOther (lobby : Lobby) (session other : SessionId) (id : RoomId) :
    (lobby.leaveOther session id).user? other =
      if session = other ∧ lobby.roomOf? session ≠ some id then none
      else lobby.user? other := by
  unfold leaveOther
  cases hprior : lobby.roomOf? session with
  | none =>
    dsimp only
    split
    · rename_i hmoved
      exact user?_of_not_seated (hmoved.1 ▸ hprior)
    · rfl
  | some prior =>
    by_cases hid : prior = id
    · simp [hid]
    · simp [hid, user?_unseat, hprior]

theorem user?_seat {lobby : Lobby} {user : User} (h : lobby.knows user.room) (other : SessionId) :
    (lobby.seat user).user? other =
      if user.session = other then (lobby.room? user.room).map (·.seated user)
      else lobby.user? other := by
  have hindex := roomOf?_seat h other
  by_cases hother : user.session = other
  · subst hother
    rw [if_pos rfl] at hindex ⊢
    rw [user?_of_roomOf? hindex, room?_seat h, if_pos rfl]
    cases lobby.room? user.room with
    | none => rfl
    | some room =>
      change (room.insert user).member? user.session = _
      rw [Room.member?_insert, if_pos rfl]
      rfl
  · rw [if_neg hother] at hindex ⊢
    refine user?_eq_of_same hindex fun id _ => ?_
    rw [room?_seat h]
    split
    · refine bind_member?_map _ fun room => ?_
      rw [Room.member?_insert, if_neg hother]
    · rw [room?_leaveOther]
      split
      · refine bind_member?_map _ fun room => ?_
        rw [Room.member?_remove, if_neg hother]
      · rfl

/-! ## Changing a room -/

theorem user?_adopt {lobby : Lobby} (h : ∀ id, lobby.IndexedAt id) (room : Room)
    (session : SessionId) :
    (lobby.adopt room).user? session =
      if room.contains session then room.member? session
      else if lobby.roomOf? session = some room.id then none
      else lobby.user? session := by
  have hindex := roomOf?_adopt (h room.id) session
  by_cases hcontains : room.contains session
  · rw [if_pos hcontains] at hindex ⊢
    rw [user?_of_roomOf? hindex, room?_adopt h, if_pos rfl]
    rfl
  · rw [if_neg hcontains] at hindex ⊢
    by_cases hdropped : lobby.roomOf? session = some room.id
    · rw [if_pos hdropped] at hindex ⊢
      exact user?_of_not_seated hindex
    · rw [if_neg hdropped] at hindex ⊢
      refine user?_eq_of_same hindex fun id hseat => ?_
      have hid : room.id ≠ id := fun heq => hdropped (heq ▸ hseat)
      rw [room?_adopt h, if_neg hid]
      refine bind_member?_map _ fun other => ?_
      rw [Room.member?_without, if_neg (mt Room.mem_sessions.1 hcontains)]

theorem user?_roomRemoved {lobby : Lobby} {id : RoomId} (h : lobby.IndexedAt id)
    (session : SessionId) :
    (lobby.roomRemoved id).user? session =
      if lobby.roomOf? session = some id then none else lobby.user? session := by
  have hindex := roomOf?_roomRemoved h session
  by_cases hmember : lobby.roomOf? session = some id
  · rw [if_pos hmember] at hindex ⊢
    exact user?_of_not_seated hindex
  · rw [if_neg hmember] at hindex ⊢
    refine user?_eq_of_same hindex fun other hseat => ?_
    have hid : id ≠ other := fun heq => hmember (heq ▸ hseat)
    rw [room?_roomRemoved, if_neg hid]

theorem user?_setStatus (lobby : Lobby) (id : RoomId) (status : RoomStatus)
    (session : SessionId) :
    (lobby.setStatus id status).user? session = lobby.user? session := by
  refine user?_eq_of_same rfl fun other _ => ?_
  rw [room?_setStatus]
  split
  · exact bind_member?_map _ fun _ => rfl
  · rfl

/-! ## Notifications -/

/-- Who enters is found in that room, and nowhere if it is unknown. -/
theorem user?_userEntered (lobby : Lobby) (user : User) (session : SessionId) :
    (lobby.userEntered user).user? session =
      if user.session = session then (lobby.room? user.room).map (·.seated user)
      else lobby.user? session := by
  have hroom := room?_leaveOther_self lobby user.session user.room
  have hleft : user.session ≠ session →
      (lobby.leaveOther user.session user.room).user? session = lobby.user? session := by
    intro hother
    rw [user?_leaveOther, if_neg fun h => hother h.1]
  unfold userEntered
  dsimp only
  generalize lobby.leaveOther user.session user.room = left at hroom hleft ⊢
  rw [← hroom]
  cases hknown : left.room? user.room with
  | some room =>
    let noted : Lobby := { left with last := { left.last with enteredRoom := some user.room } }
    have hknows : noted.knows user.room := by
      rw [knows_eq_isSome, show noted.room? user.room = _ from hknown]
      rfl
    have hseat := user?_seat hknows session
    rw [show noted.room? user.room = _ from hknown] at hseat
    refine hseat.trans ?_
    split
    · rfl
    · rename_i hother
      exact hleft hother
  | none =>
    let gone : Lobby := { left with memberships := left.memberships.erase user.session }
    have hindex : gone.roomOf? session =
        if user.session = session then none else left.roomOf? session :=
      getElem?_erase_session left.memberships user.session session
    change gone.user? session = _
    by_cases hother : user.session = session
    · rw [if_pos hother] at hindex ⊢
      exact user?_of_not_seated hindex
    · rw [if_neg hother] at hindex ⊢
      rw [← hleft hother]
      exact user?_eq_of_same hindex fun _ _ => rfl

theorem user?_userExited (lobby : Lobby) (gone session : SessionId) (id : RoomId) :
    (lobby.userExited gone id).user? session =
      if gone = session ∧ lobby.roomOf? gone = some id then none else lobby.user? session :=
  user?_unseat lobby gone session id

/-- Only what is said about others in a known room moves anybody. -/
theorem user?_userUpdated (lobby : Lobby) (user : User) (session : SessionId) :
    (lobby.userUpdated user).user? session =
      if user.session = session ∧ ¬ lobby.isSelf user.session ∧ user.isInRoom ∧
          lobby.knows user.room then
        (lobby.room? user.room).map (·.seated user)
      else lobby.user? session := by
  rw [userUpdated_eq]
  by_cases hself : lobby.isSelf user.session
  · rw [if_pos hself, if_neg fun h => h.2.1 hself]
    rfl
  rw [if_neg hself]
  by_cases hseats : user.isInRoom && lobby.knows user.room
  · rw [if_pos hseats]
    rw [Bool.and_eq_true] at hseats
    have hknows : (lobby.triggeredBy user).knows user.room := hseats.2
    refine (user?_seat hknows session).trans ?_
    simp only [hself, hseats, not_false_eq_true, and_true, Bool.false_eq_true]
    rfl
  · rw [if_neg hseats, if_neg]
    · rfl
    · rintro ⟨-, -, hin, hknows⟩
      exact hseats (by rw [hin, hknows]; rfl)

/-! ## Consistent lobbies -/

namespace Consistent

variable {lobby : Lobby}

/-- The users that are found are the members of the rooms. -/
theorem user?_eq_some_iff (h : lobby.Consistent) {session : SessionId} {user : User} :
    lobby.user? session = some user ↔
      ∃ room, lobby.room? user.room = some room ∧ room.member? session = some user := by
  constructor
  · intro huser
    obtain ⟨id, hindex⟩ := Option.isSome_iff_exists.1 ((h.isSome_user?_iff session).1 (huser ▸ rfl))
    rw [user?_of_roomOf? hindex] at huser
    obtain ⟨room, hroom, hmember⟩ := Option.bind_eq_some_iff.1 huser
    have hid : user.room = id :=
      (h.seated id room hroom session user hmember).2.2.trans (h.stored id room hroom)
    exact ⟨room, hid ▸ hroom, hmember⟩
  · rintro ⟨room, hroom, hmember⟩
    have hcontains : room.contains session := by
      rw [Room.contains_eq_isSome, hmember]
      rfl
    rw [user?_of_roomOf? ((h.indexed _ session).2 ⟨room, hroom, hcontains⟩), hroom]
    exact hmember

/-- A session that is found is indexed in the room of its user. -/
theorem roomOf?_eq_map (h : lobby.Consistent) (session : SessionId) :
    lobby.roomOf? session = (lobby.user? session).map User.room := by
  cases huser : lobby.user? session with
  | none =>
    have hnone := (not_congr (h.isSome_user?_iff session)).1 (huser ▸ Bool.false_ne_true)
    rwa [Bool.not_eq_true, Option.isSome_eq_false_iff, Option.isNone_iff_eq_none] at hnone
  | some user =>
    obtain ⟨room, hroom, hmember⟩ := h.user?_eq_some_iff.1 huser
    have hcontains : room.contains session := by
      rw [Room.contains_eq_isSome, hmember]
      rfl
    exact (h.indexed _ session).2 ⟨room, hroom, hcontains⟩

end Consistent

end Multiplayer.Lobby
