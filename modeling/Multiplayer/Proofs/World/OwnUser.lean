import Multiplayer.Proofs.World.Seating

/-!
# The own user agrees with the rooms

The own user is kept beside the rooms and brought up to date by each operation in its own way.  As
long as the server does not announce it by itself, it is the member that the rooms have, or it is
in the lobby, or it has entered a room that is not known yet.

* `Mirrors` has these three cases.
* `Mirrors.of_same` and `Mirrors.retreat`: a session to which nothing happens, and one that leaves
  a room or whose room is lost.
* `AgreesOn.userEntered` and so on: no operation breaks it.
* `ReachableBy.self_agrees` is the result.
-/

namespace Multiplayer

theorem User.leaveRoom_inLobby (session : SessionId) :
    (inLobby session).leaveRoom = inLobby session := rfl

namespace Lobby

/-! ## What is found of a session -/

/-- The user of a session is the one that is found, or one of whom nothing is found because it is
in the lobby or in an unknown room. -/
inductive Mirrors (lobby : Lobby) (session : SessionId) : User → Prop where
  | seated {user : User} (h : lobby.user? session = some user) : Mirrors lobby session user
  | away (h : lobby.user? session = none) : Mirrors lobby session (.inLobby session)
  | unknown {id : RoomId} (index : UInt16) (h : lobby.user? session = none)
      (hid : ¬ lobby.knows id) : Mirrors lobby session (.inRoom session id index)

namespace Mirrors

variable {lobby lobby' : Lobby} {session : SessionId} {user : User}

theorem user?_eq (h : lobby.Mirrors session user) {found : User}
    (hfound : lobby.user? session = some found) : user = found := by
  cases h with
  | seated h => exact Option.some.inj (h.symm.trans hfound)
  | away h => cases h.symm.trans hfound
  | unknown _ h => cases h.symm.trans hfound

theorem session_eq (h : lobby.Mirrors session user) (hconsistent : lobby.Consistent) :
    user.session = session := by
  cases h with
  | seated h =>
    obtain ⟨room, hroom, hmember⟩ := hconsistent.user?_eq_some_iff.1 h
    exact (hconsistent.seated _ room hroom session user hmember).1
  | away => rfl
  | unknown => rfl

/-- Who is in a known room is found there. -/
theorem found (h : lobby.Mirrors session user) (hin : user.isInRoom)
    (hknows : lobby.knows user.room) : lobby.user? session = some user := by
  cases h with
  | seated h => exact h
  | away => cases hin
  | unknown _ _ hid => exact absurd hknows hid

theorem isInRoom_of_found (hconsistent : lobby.Consistent) (h : lobby.user? session = some user) :
    user.isInRoom := by
  obtain ⟨room, hroom, hmember⟩ := hconsistent.user?_eq_some_iff.1 h
  simp [User.isInRoom, (hconsistent.seated _ room hroom session user hmember).2.1]

theorem eq_inLobby (h : lobby.Mirrors session user) (hconsistent : lobby.Consistent)
    (hin : ¬ user.isInRoom) : user = .inLobby session := by
  cases h with
  | seated h => exact absurd (isInRoom_of_found hconsistent h) hin
  | away => rfl
  | unknown => exact absurd rfl hin

/-- Nothing happens to the session, and no room becomes known. -/
theorem of_same (h : lobby.Mirrors session user)
    (huser : lobby'.user? session = lobby.user? session)
    (hknows : ∀ id, lobby'.knows id → lobby.knows id) : lobby'.Mirrors session user := by
  cases h with
  | seated h => exact .seated (huser.trans h)
  | away h => exact .away (huser.trans h)
  | unknown index h hid => exact .unknown index (huser.trans h) (mt (hknows _) hid)

/-- The session is no longer found in a certain room, and no other room becomes known.  The user
goes to the lobby if it was in that room, were the room known or not. -/
theorem retreat (h : lobby.Mirrors session user) (hconsistent : lobby.Consistent) (id : RoomId)
    (huser : lobby'.user? session =
      if lobby.roomOf? session = some id then none else lobby.user? session)
    (hknows : ∀ other, lobby'.knows other → lobby.knows other ∨ other = id) :
    lobby'.Mirrors session
      (if user.room = id ∧ user.isInRoom then user.leaveRoom else user) := by
  rw [hconsistent.roomOf?_eq_map] at huser
  cases h with
  | seated h =>
    have hin := isInRoom_of_found hconsistent h
    have hsession := (Mirrors.seated h).session_eq hconsistent
    rw [h] at huser
    by_cases hid : user.room = id
    · rw [if_pos ⟨hid, hin⟩, User.leaveRoom, hsession]
      exact .away (by rw [huser, Option.map_some, hid, if_pos rfl])
    · rw [if_neg fun h => hid h.1]
      exact .seated (by rw [huser, Option.map_some, if_neg fun h => hid (Option.some.inj h)])
  | away h =>
    rw [h] at huser
    rw [if_neg fun h => Bool.false_ne_true h.2]
    exact .away huser
  | @unknown room index h hroom =>
    rw [h] at huser
    by_cases hid : room = id
    · rw [if_pos ⟨hid, rfl⟩]
      exact .away huser
    · rw [if_neg fun h => hid h.1]
      exact .unknown index huser fun h => (hknows room h).elim hroom hid

end Mirrors

/-! ## What the operations do to the own user -/

/-- What the own session is, and the own user. -/
def own (lobby : Lobby) : Option SessionId × User := (lobby.selfSession, lobby.selfUser)

theorem own_leaveOther (lobby : Lobby) (session : SessionId) (id : RoomId) :
    (lobby.leaveOther session id).own = lobby.own := by
  unfold leaveOther
  split
  · split <;> rfl
  · rfl

theorem own_seat (lobby : Lobby) (user : User) : (lobby.seat user).own = lobby.own := by
  rw [← lobby.own_leaveOther user.session user.room]
  unfold seat
  dsimp only
  split <;> rfl

theorem own_claims (id : RoomId) (sessions : List SessionId) (lobby : Lobby) :
    (sessions.foldl (claim id) lobby).own = lobby.own := by
  induction sessions generalizing lobby with
  | nil => rfl
  | cons session sessions ih => exact (ih _).trans (lobby.own_leaveOther session id)

theorem own_adopt (lobby : Lobby) (room : Room) :
    (lobby.adopt room).own = (lobby.selfSession, lobby.selfAfter room) := by
  have hclaims := own_claims room.id room.sessions (lobby.cleared room)
  rw [adopt_eq]
  dsimp only
  generalize room.sessions.foldl (claim room.id) (lobby.cleared room) = claimed at hclaims ⊢
  obtain ⟨hsession, huser⟩ := Prod.mk.inj hclaims
  rw [own, selfAfter, selfAfter, hsession, huser]
  rfl

theorem own_userUpdated {lobby : Lobby} {user : User} (h : ¬ lobby.isSelf user.session) :
    (lobby.userUpdated user).own = lobby.own := by
  rw [userUpdated_eq, if_neg h]
  split
  · exact (lobby.triggeredBy user).own_seat user
  · rfl

/-- The own session and user after a user has entered its room, and has a seat there if the room
is known. -/
def ownAfterEntry (user : User) (index? : Option UInt16) (own : Option SessionId × User) :
    Option SessionId × User :=
  (own.1,
    if own.1 = some user.session then
      .inRoom own.2.session user.room (index?.getD own.2.index)
    else own.2)

theorem own_userEntered (lobby : Lobby) (user : User) :
    (lobby.userEntered user).own =
      ownAfterEntry user (if lobby.knows user.room then some user.index else none) lobby.own := by
  rw [← lobby.own_leaveOther user.session user.room, ← lobby.knows_leaveOther user.session,
    knows_eq_isSome]
  unfold userEntered
  dsimp only
  generalize lobby.leaveOther user.session user.room = left
  cases left.room? user.room with
  | none => simp [own, ownAfterEntry, isSelf, User.inRoom]
  | some room =>
    let noted : Lobby := { left with last := { left.last with enteredRoom := some user.room } }
    refine Eq.trans ?_ (congrArg (ownAfterEntry user (some user.index)) (noted.own_seat user))
    simp only [Option.map_some, isSelf, decide_eq_true_eq]
    rfl

theorem own_userExited (lobby : Lobby) (session : SessionId) (id : RoomId) :
    (lobby.userExited session id).own = (lobby.selfSession,
      if lobby.isSelf session ∧ lobby.selfUser.room = id then lobby.selfUser.leaveRoom
      else lobby.selfUser) := by
  change (lobby.selfSession, if lobby.isSelf session && lobby.selfUser.room = id then
    lobby.selfUser.leaveRoom else lobby.selfUser) = _
  simp only [Bool.and_eq_true, decide_eq_true_eq]

theorem own_roomRemoved (lobby : Lobby) (id : RoomId) :
    (lobby.roomRemoved id).own = (lobby.selfSession,
      if lobby.knows id ∧ lobby.selfUser.room = id ∧ lobby.selfUser.isInRoom then
        lobby.selfUser.leaveRoom
      else lobby.selfUser) := by
  let noted : Lobby := { lobby with last := { lobby.last with removedRoom := some id } }
  unfold roomRemoved
  dsimp only
  rw [knows_eq_isSome, show noted.room? id = lobby.room? id from rfl]
  cases lobby.room? id with
  | none => rfl
  | some room => simp [own]

/-! ## The invariant -/

/-- The own user is the default one until there is an own session, and mirrors that session from
then on. -/
def AgreesOn (lobby : Lobby) : Option SessionId × User → Prop
  | (none, user) => user = default
  | (some session, user) => lobby.Mirrors session user

theorem knows_eq_of_head?_eq {lobby lobby' : Lobby} {id : RoomId}
    (h : lobby'.head? id = lobby.head? id) : lobby'.knows id = lobby.knows id := by
  rw [← knows_seating, ← knows_seating]
  exact congrArg Option.isSome h

namespace AgreesOn

variable {lobby lobby' : Lobby} {own : Option SessionId × User}

theorem of_same (h : lobby.AgreesOn own)
    (huser : ∀ session, own.1 = some session → lobby'.user? session = lobby.user? session)
    (hknows : ∀ id, lobby'.knows id → lobby.knows id) : lobby'.AgreesOn own := by
  match own, h with
  | (none, _), h => exact h
  | (some session, _), h => exact Mirrors.of_same h (huser session rfl) hknows

theorem retreat (h : lobby.AgreesOn own) (hconsistent : lobby.Consistent) (id : RoomId)
    (huser : ∀ session, own.1 = some session → lobby'.user? session =
      if lobby.roomOf? session = some id then none else lobby.user? session)
    (hknows : ∀ other, lobby'.knows other → lobby.knows other ∨ other = id) :
    lobby'.AgreesOn
      (own.1, if own.2.room = id ∧ own.2.isInRoom then own.2.leaveRoom else own.2) := by
  match own, h with
  | (none, _), h =>
    rw [if_neg]
    · exact h
    · rw [show _ = default from h]
      exact fun h => Bool.false_ne_true h.2
  | (some session, _), h => exact Mirrors.retreat h hconsistent id (huser session rfl) hknows

theorem noted (h : lobby.AgreesOn own) (last : EventRecord) :
    ({ lobby with last } : Lobby).AgreesOn own :=
  h.of_same (fun _ _ => rfl) fun _ hid => hid

theorem identify (session : SessionId) :
    (lobby.identify session).AgreesOn (lobby.identify session).own := by
  change (lobby.identify session).Mirrors session ((lobby.user? session).getD (.inLobby session))
  cases huser : lobby.user? session with
  | some user => exact .seated huser
  | none => exact .away huser

theorem userUpdated (h : lobby.AgreesOn lobby.own) {user : User}
    (hother : ¬ lobby.isSelf user.session) :
    (lobby.userUpdated user).AgreesOn (lobby.userUpdated user).own := by
  rw [own_userUpdated hother]
  refine h.of_same (fun session hsession => ?_) fun id hid =>
    knows_eq_of_head?_eq (lobby.head?_userUpdated user id) ▸ hid
  rw [user?_userUpdated, if_neg]
  rintro ⟨rfl, -⟩
  exact hother (decide_eq_true hsession)

theorem userEntered (h : lobby.AgreesOn own) (hconsistent : lobby.Consistent) (user : User) :
    (lobby.userEntered user).AgreesOn
      (ownAfterEntry user (if lobby.knows user.room then some user.index else none) own) := by
  have hknows (id : RoomId) : (lobby.userEntered user).knows id = lobby.knows id :=
    knows_eq_of_head?_eq (lobby.head?_userEntered user id)
  match own, h with
  | (none, _), h => exact h
  | (some session, self), h =>
    have hself : self.session = session := Mirrors.session_eq h hconsistent
    have hfound := lobby.user?_userEntered user session
    rw [ownAfterEntry]
    by_cases hsession : user.session = session
    · subst hsession
      rw [if_pos rfl] at hfound
      rw [if_pos rfl, hself, knows_eq_isSome]
      cases hroom : lobby.room? user.room with
      | some room =>
        rw [hroom] at hfound
        refine .seated (hfound.trans ?_)
        rw [Option.map_some, Room.seated, hconsistent.stored _ room hroom]
        rfl
      | none =>
        rw [hroom] at hfound
        refine .unknown _ hfound ?_
        rw [hknows, knows_eq_isSome, hroom]
        exact Bool.false_ne_true
    · rw [if_neg hsession] at hfound
      rw [if_neg fun h => hsession (Option.some.inj h).symm]
      exact Mirrors.of_same h hfound fun id hid => hknows id ▸ hid

theorem userExited (h : lobby.AgreesOn lobby.own) (hconsistent : lobby.Consistent)
    (gone : SessionId) (id : RoomId) :
    (lobby.userExited gone id).AgreesOn (lobby.userExited gone id).own := by
  have hknows (other : RoomId) (hother : (lobby.userExited gone id).knows other) :
      lobby.knows other := knows_eq_of_head?_eq (lobby.head?_unseat gone id other) ▸ hother
  rw [own_userExited]
  by_cases hself : lobby.isSelf gone
  · have hsession : lobby.selfSession = some gone := of_decide_eq_true hself
    have hmirrors : lobby.Mirrors gone lobby.selfUser := by
      rwa [own, hsession] at h
    -- Who is in the lobby leaves it for the lobby.
    have hleave : (if lobby.isSelf gone ∧ lobby.selfUser.room = id then lobby.selfUser.leaveRoom
        else lobby.selfUser) =
        if lobby.selfUser.room = id ∧ lobby.selfUser.isInRoom then lobby.selfUser.leaveRoom
        else lobby.selfUser := by
      by_cases hin : lobby.selfUser.isInRoom
      · simp only [hself, hin, true_and, and_true]
      · simp only [hmirrors.eq_inLobby hconsistent hin, User.leaveRoom_inLobby, ite_self]
    rw [hleave]
    refine h.retreat hconsistent id (fun session hown => ?_) fun other hother =>
      .inl (hknows other hother)
    obtain rfl := Option.some.inj (hsession.symm.trans hown)
    rw [user?_userExited]
    simp only [true_and]
  · rw [if_neg fun h => hself h.1]
    refine h.of_same (fun session hown => ?_) hknows
    rw [user?_userExited, if_neg]
    rintro ⟨rfl, -⟩
    exact hself (decide_eq_true hown)

theorem adopt (h : lobby.AgreesOn lobby.own) (hconsistent : lobby.Consistent) (room : Room) :
    (lobby.adopt room).AgreesOn (lobby.adopt room).own := by
  have hknows (other : RoomId) (hother : (lobby.adopt room).knows other) :
      lobby.knows other ∨ other = room.id := by
    rw [knows_eq_isSome, room?_adopt hconsistent.indexedAt] at hother
    split at hother
    · rename_i hid
      exact .inr hid.symm
    · rw [Option.isSome_map] at hother
      exact .inl (by rwa [knows_eq_isSome])
  have hfound := user?_adopt hconsistent.indexedAt room
  rw [own_adopt, selfAfter]
  cases hmember : lobby.selfSession.bind room.member? with
  | some member =>
    obtain ⟨session, hsession, hmember⟩ := Option.bind_eq_some_iff.1 hmember
    rw [hsession]
    refine Mirrors.seated ?_
    rw [hfound, Room.contains_eq_isSome, hmember]
    rfl
  | none =>
    simp only [Bool.and_eq_true, decide_eq_true_eq]
    refine h.retreat hconsistent room.id (fun session hsession => ?_) hknows
    rw [show lobby.selfSession = some session from hsession, Option.bind_some] at hmember
    rw [hfound, Room.contains_eq_isSome, hmember]
    rfl

theorem roomRemoved (h : lobby.AgreesOn lobby.own) (hconsistent : lobby.Consistent) (id : RoomId) :
    (lobby.roomRemoved id).AgreesOn (lobby.roomRemoved id).own := by
  have hknows (other : RoomId) (hother : (lobby.roomRemoved id).knows other) :
      lobby.knows other := by
    rw [knows_eq_isSome, room?_roomRemoved] at hother
    split at hother
    · cases hother
    · rwa [knows_eq_isSome]
  have hfound := user?_roomRemoved (hconsistent.indexedAt id)
  rw [own_roomRemoved]
  by_cases hid : lobby.knows id
  · simp only [hid, true_and]
    exact h.retreat hconsistent id (fun session _ => hfound session)
      fun other hother => .inl (hknows other hother)
  · rw [if_neg fun h => hid h.1]
    refine h.of_same (fun session _ => ?_) hknows
    rw [hfound, if_neg]
    intro hindex
    obtain ⟨room, hroom, -⟩ := (hconsistent.indexed id session).1 hindex
    exact hid (by rw [knows_eq_isSome, hroom]; rfl)

theorem setStatus (h : lobby.AgreesOn lobby.own) (id : RoomId) (status : RoomStatus) :
    (lobby.setStatus id status).AgreesOn (lobby.setStatus id status).own := by
  refine AgreesOn.of_same h (fun session _ => user?_setStatus lobby id status session)
    fun other hother => ?_
  rw [knows_eq_isSome, room?_setStatus] at hother
  rw [knows_eq_isSome]
  split at hother
  · rwa [Option.isSome_map] at hother
  · exact hother

end AgreesOn

/-! ## Histories -/

/-- A notification with a well seated snapshot, if with any, that does not announce the own
user. -/
def SparesSelf (lobby : Lobby) (notification : Notification) : Prop :=
  notification.WellSeated ∧
    ∀ user, notification = .userUpdated user → lobby.selfSession ≠ some user.session

theorem AgreesOn.told {lobby : Lobby} (h : lobby.AgreesOn lobby.own)
    (hconsistent : lobby.Consistent) {notification : Notification}
    (hspares : lobby.SparesSelf notification) :
    (notification.apply lobby).AgreesOn (notification.apply lobby).own := by
  cases notification with
  | userUpdated user =>
    exact h.userUpdated fun hself => hspares.2 user rfl (of_decide_eq_true hself)
  | userEntered user =>
    rw [show (Notification.userEntered user).apply lobby = lobby.userEntered user from rfl,
      own_userEntered]
    exact h.userEntered hconsistent user
  | userExited session id => exact h.userExited hconsistent session id
  | roomCreated room =>
    exact (h.noted { lobby.last with createdRoom := some room.id }).adopt (hconsistent.noted _) room
  | roomUpdated room =>
    exact (h.noted { lobby.last with updatedRoom := some room.id }).adopt (hconsistent.noted _) room
  | roomRemoved id => exact h.roomRemoved hconsistent id
  | roomLocked id => exact (h.noted { lobby.last with lockedRoom := some id }).setStatus id .locked
  | roomUnlocked id =>
    exact (h.noted { lobby.last with unlockedRoom := some id }).setStatus id .unlocked

theorem ReachableBy.agreesOn {lobby : Lobby} (h : lobby.ReachableBy SparesSelf) :
    lobby.AgreesOn lobby.own := by
  induction h with
  | empty => exact rfl
  | identify _ session ih => exact .identify session
  | beginEvent _ code ih => exact ih.noted _
  | apply hbefore notification hspares ih =>
    exact ih.told (hbefore.consistent fun _ _ hspares => hspares.1) hspares

/-- **The own user agrees with the rooms.**  As long as it is not announced by itself, it is the
member that the room of the own session has.  In the lobby it has neither room nor seat, and before
there is an own session it is the default user. -/
theorem ReachableBy.self_agrees {lobby : Lobby} (h : lobby.ReachableBy SparesSelf) :
    (∀ own, lobby.selfSession = some own →
      lobby.selfUser.session = own ∧
      (∀ id, lobby.roomOf? own = some id → lobby.selfUser.room = id ∧
        ∃ room, lobby.room? id = some room ∧ room.member? own = some lobby.selfUser) ∧
      (lobby.selfUser.status = .inRoom → lobby.knows lobby.selfUser.room →
        ∃ room, lobby.room? lobby.selfUser.room = some room ∧ room.contains own)) ∧
    (lobby.selfUser.status = .inLobby → lobby.selfUser.room = ⟨0⟩ ∧ lobby.selfUser.index = 0) ∧
    (lobby.selfSession = none → lobby.selfUser = default) := by
  have hconsistent : lobby.Consistent := h.consistent fun _ _ hspares => hspares.1
  have hagrees := h.agreesOn
  rw [own] at hagrees
  refine ⟨fun own hown => ?_, fun hstatus => ?_, fun hown => ?_⟩
  · rw [hown] at hagrees
    have hmirrors : lobby.Mirrors own lobby.selfUser := hagrees
    refine ⟨hmirrors.session_eq hconsistent, fun id hindex => ?_, fun hstatus hknows => ?_⟩
    · rw [hconsistent.roomOf?_eq_map] at hindex
      obtain ⟨user, huser, rfl⟩ := Option.map_eq_some_iff.1 hindex
      rw [hmirrors.user?_eq huser]
      exact ⟨rfl, hconsistent.user?_eq_some_iff.1 huser⟩
    · have hfound := hmirrors.found (decide_eq_true hstatus) hknows
      have hindex := hconsistent.roomOf?_eq_map own
      rw [hfound] at hindex
      exact (hconsistent.indexed _ own).1 hindex
  · cases hown : lobby.selfSession with
    | none =>
      rw [hown] at hagrees
      rw [show lobby.selfUser = default from hagrees]
      exact ⟨rfl, rfl⟩
    | some own =>
      rw [hown] at hagrees
      have hin : ¬ lobby.selfUser.isInRoom := by simp [User.isInRoom, hstatus]
      rw [Mirrors.eq_inLobby hagrees hconsistent hin]
      exact ⟨rfl, rfl⟩
  · rw [hown] at hagrees
    exact hagrees

/-- A session that is told of before it is the own one enters an unknown room, which then becomes
known with another seat for it. -/
def afterDetour : Lobby :=
  let lobby := ((Lobby.empty.userEntered (.inRoom ⟨5⟩ ⟨3⟩ 7)).identify ⟨5⟩).beginEvent 0x0102
  (lobby.userEntered (.inRoom ⟨5⟩ ⟨3⟩ 7)).roomCreated gathering

theorem self_agrees_afterDetour :
    afterDetour.ReachableBy SparesSelf ∧ afterDetour.selfUser = .inRoom ⟨5⟩ ⟨3⟩ 1 ∧
      ∃ room, afterDetour.room? ⟨3⟩ = some room ∧
        room.member? ⟨5⟩ = some afterDetour.selfUser := by
  have hstart : Lobby.empty.ReachableBy SparesSelf := .empty
  have hentered := hstart.apply (.userEntered (.inRoom ⟨5⟩ ⟨3⟩ 7))
    ⟨by rintro room ⟨⟩, by rintro user ⟨⟩⟩
  have hbegun := (hentered.identify ⟨5⟩).beginEvent 0x0102
  have hagain := hbegun.apply (.userEntered (.inRoom ⟨5⟩ ⟨3⟩ 7))
    ⟨by rintro room ⟨⟩, by rintro user ⟨⟩⟩
  have hgathered := hagain.apply (.roomCreated gathering)
    ⟨by rintro room ⟨⟩; exact ((Room.wellSeated_empty _ _ _ _ _).insert _).insert _,
      by rintro user ⟨⟩⟩
  have hagrees := (ReachableBy.self_agrees hgathered).1 ⟨5⟩ rfl
  refine ⟨hgathered, by decide +kernel, (hagrees.2.1 ⟨3⟩ ?_).2⟩
  decide +kernel

end Lobby

end Multiplayer
