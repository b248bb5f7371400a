import Multiplayer.Proofs.World.OwnUser

/-!
# The own user in a room that is not known

The server may announce that the own session enters or changes in a room of which no snapshot has
come.  The own user is in that room then, and nobody is seated there.

* `Named`: whatever is told, the own user has the own session.
* `ReachableBy.self_after_entry`: the own user after an entry.  The number of the seat is taken
  over only if the room is known; `seat_left_over` has a number of another room.
* `ReachableBy.vacated`: what is left of a room that is removed.  The own user goes to the lobby
  only if the room is known; `self_left_behind` stays in a room that is gone.
-/

namespace Multiplayer.Lobby

/-! ## The own session -/

/-- The own user has the own session, once there is one. -/
def Named (own : Option SessionId × User) : Prop :=
  ∀ session, own.1 = some session → own.2.session = session

theorem own_userUpdated_of_isSelf {lobby : Lobby} {user : User} (h : lobby.isSelf user.session) :
    (lobby.userUpdated user).own = (lobby.selfSession, user) := by
  rw [userUpdated_eq, if_pos h]
  rfl

namespace Named

variable {lobby : Lobby} {own : Option SessionId × User}

theorem leaveRoom_of (h : Named own) (leaves : Prop) [Decidable leaves] :
    Named (own.1, if leaves then own.2.leaveRoom else own.2) := by
  intro session hsession
  rw [← h session hsession]
  split <;> rfl

theorem ownAfterEntry (h : Named own) (user : User) (index? : Option UInt16) :
    Named (ownAfterEntry user index? own) := by
  intro session hsession
  rw [← h session hsession, Lobby.ownAfterEntry]
  split <;> rfl

theorem identify (hconsistent : lobby.Consistent) (session : SessionId) :
    Named (lobby.identify session).own := by
  rintro _ ⟨⟩
  have hmirrors : (lobby.identify session).Mirrors session (lobby.identify session).selfUser :=
    AgreesOn.identify session
  exact hmirrors.session_eq (hconsistent.identify session)

theorem userUpdated (h : Named lobby.own) (user : User) : Named (lobby.userUpdated user).own := by
  by_cases hself : lobby.isSelf user.session
  · rw [own_userUpdated_of_isSelf hself]
    intro session hsession
    exact Option.some.inj ((of_decide_eq_true hself).symm.trans hsession)
  · rw [own_userUpdated hself]
    exact h

theorem adopt (h : Named lobby.own) {room : Room} (hseated : room.WellSeated) :
    Named (lobby.adopt room).own := by
  rw [own_adopt, selfAfter]
  cases hmember : lobby.selfSession.bind room.member? with
  | some member =>
    obtain ⟨own, hown, hmember⟩ := Option.bind_eq_some_iff.1 hmember
    intro session hsession
    obtain rfl := Option.some.inj (hown.symm.trans hsession)
    exact (hseated own member hmember).1
  | none => exact h.leaveRoom_of _

theorem told (h : Named lobby.own) {notification : Notification}
    (hseated : notification.WellSeated) : Named (notification.apply lobby).own := by
  cases notification with
  | userUpdated user => exact h.userUpdated user
  | userEntered user =>
    change Named (lobby.userEntered user).own
    rw [own_userEntered]
    exact h.ownAfterEntry user _
  | userExited session id =>
    change Named (lobby.userExited session id).own
    rw [own_userExited]
    exact h.leaveRoom_of _
  | roomCreated room =>
    let noted : Lobby := { lobby with last := { lobby.last with createdRoom := some room.id } }
    have hnoted : Named noted.own := h
    exact hnoted.adopt (hseated room rfl)
  | roomUpdated room =>
    let noted : Lobby := { lobby with last := { lobby.last with updatedRoom := some room.id } }
    have hnoted : Named noted.own := h
    exact hnoted.adopt (hseated room rfl)
  | roomRemoved id =>
    change Named (lobby.roomRemoved id).own
    rw [own_roomRemoved]
    exact h.leaveRoom_of _
  | roomLocked id => exact h
  | roomUnlocked id => exact h

end Named

theorem ReachableBy.named {lobby : Lobby}
    (h : lobby.ReachableBy fun _ notification => notification.WellSeated) : Named lobby.own := by
  induction h with
  | empty => rintro session ⟨⟩
  | identify hbefore session =>
    exact .identify (hbefore.consistent fun _ _ hseated => hseated) session
  | beginEvent _ code ih => exact ih
  | apply _ notification hseated ih => exact ih.told hseated

/-! ## Entering a room -/

theorem Named.userEntered {lobby : Lobby} (h : Named lobby.own) {own : SessionId}
    (hown : lobby.selfSession = some own) (id : RoomId) (index : UInt16) :
    (lobby.userEntered (.inRoom own id index)).own =
      (some own, .inRoom own id (if lobby.knows id then index else lobby.selfUser.index)) := by
  have hsession : lobby.selfUser.session = own := h own hown
  rw [own_userEntered, Lobby.ownAfterEntry]
  change (lobby.selfSession, if lobby.selfSession = some own then
    User.inRoom lobby.selfUser.session id
      ((if lobby.knows id then some index else none).getD lobby.selfUser.index)
    else lobby.selfUser) = _
  rw [hown, if_pos rfl, hsession]
  split <;> rfl

/-- **The own user after an entry.**  When the own session enters a room, the own user is in that
room, whether it is known or not.  Its seat is the announced one if the room is known, and stays
what it was if it is not. -/
theorem ReachableBy.self_after_entry {lobby : Lobby}
    (h : lobby.ReachableBy fun _ notification => notification.WellSeated) {own : SessionId}
    (hown : lobby.selfSession = some own) (id : RoomId) (index : UInt16) :
    (lobby.userEntered (.inRoom own id index)).selfSession = some own ∧
    (lobby.userEntered (.inRoom own id index)).selfUser =
      .inRoom own id (if lobby.knows id then index else lobby.selfUser.index) ∧
    ((lobby.userEntered (.inRoom own id index)).selfUser = .inRoom own id index ↔
      lobby.knows id ∨ lobby.selfUser.index = index) := by
  obtain ⟨hsession, huser⟩ := Prod.mk.inj (h.named.userEntered hown id index)
  refine ⟨hsession, huser, ?_⟩
  rw [huser]
  by_cases hknows : lobby.knows id
  · simp [hknows]
  · simp [hknows, User.inRoom]

theorem self_after_entry_afterMove :
    afterMove.ReachableBy (fun _ notification => notification.WellSeated) ∧
      afterMove.selfSession = some ⟨5⟩ ∧ afterMove.knows ⟨1⟩ ∧
      (afterMove.userEntered (.inRoom ⟨5⟩ ⟨1⟩ 3)).selfUser = .inRoom ⟨5⟩ ⟨1⟩ 3 := by
  have hreachable := afterMove_reachable.reachableBy
  have hown : afterMove.selfSession = some ⟨5⟩ := by decide +kernel
  have hknows : afterMove.knows ⟨1⟩ := by decide +kernel
  exact ⟨hreachable, hown, hknows,
    (ReachableBy.self_after_entry hreachable hown ⟨1⟩ 3).2.2.2 (.inl hknows)⟩

/-- The own session sits in the one room that is known. -/
def seatedOnce : Lobby :=
  let lobby := (Lobby.empty.identify ⟨5⟩).roomCreated (.empty ⟨1⟩ .normal 4 ⟨5⟩ ⟨0⟩)
  lobby.userEntered (.inRoom ⟨5⟩ ⟨1⟩ 2)

theorem seatedOnce_reachable : seatedOnce.Reachable := by
  have hstart := Reachable.empty.identify ⟨5⟩
  have hcreated := hstart.apply (.roomCreated (.empty ⟨1⟩ .normal 4 ⟨5⟩ ⟨0⟩)) (by
    rintro room ⟨⟩
    exact .empty _ _ _ _ _)
  exact hcreated.apply (.userEntered (.inRoom ⟨5⟩ ⟨1⟩ 2)) (by rintro room ⟨⟩)

/-- Whoever goes from seat 2 of a known room to seat 7 of an unknown one has seat 2 there. -/
theorem seat_left_over :
    seatedOnce.Reachable ∧ seatedOnce.selfSession = some ⟨5⟩ ∧ ¬ seatedOnce.knows ⟨3⟩ ∧
      (seatedOnce.userEntered (.inRoom ⟨5⟩ ⟨3⟩ 7)).selfUser = .inRoom ⟨5⟩ ⟨3⟩ 2 ∧
      (seatedOnce.userEntered (.inRoom ⟨5⟩ ⟨3⟩ 7)).selfUser ≠ .inRoom ⟨5⟩ ⟨3⟩ 7 :=
  ⟨seatedOnce_reachable, by decide +kernel, by decide +kernel, by decide +kernel,
    by decide +kernel⟩

/-! ## Removing a room -/

/-- Whether the own user is in a room. -/
def SelfIn (lobby : Lobby) (id : RoomId) : Prop :=
  lobby.selfUser.isInRoom ∧ lobby.selfUser.room = id

theorem selfUser_roomRemoved_of_knows {lobby : Lobby} {id : RoomId} (hknows : lobby.knows id)
    (hin : lobby.SelfIn id) :
    (lobby.roomRemoved id).selfUser = .inLobby lobby.selfUser.session := by
  have huser := (Prod.mk.inj (lobby.own_roomRemoved id)).2
  rwa [if_pos ⟨hknows, hin.2, hin.1⟩] at huser

theorem selfUser_roomRemoved_of_not {lobby : Lobby} {id : RoomId}
    (h : ¬ (lobby.knows id ∧ lobby.SelfIn id)) :
    (lobby.roomRemoved id).selfUser = lobby.selfUser := by
  have huser := (Prod.mk.inj (lobby.own_roomRemoved id)).2
  rwa [if_neg fun hboth => h ⟨hboth.1, hboth.2.2, hboth.2.1⟩] at huser

/-- A removal fails to take the own user out of the room exactly if the room is unknown. -/
theorem selfIn_roomRemoved {lobby : Lobby} {id : RoomId} :
    (lobby.roomRemoved id).SelfIn id ↔ ¬ lobby.knows id ∧ lobby.SelfIn id := by
  by_cases hboth : lobby.knows id ∧ lobby.SelfIn id
  · have hout : ¬ (lobby.roomRemoved id).SelfIn id := by
      rw [SelfIn, selfUser_roomRemoved_of_knows hboth.1 hboth.2]
      exact fun hin => Bool.false_ne_true hin.1
    exact ⟨fun hin => absurd hin hout, fun hunknown => absurd hboth.1 hunknown.1⟩
  · rw [SelfIn, selfUser_roomRemoved_of_not hboth]
    exact ⟨fun hin => ⟨fun hknows => hboth ⟨hknows, hin⟩, hin⟩, fun hin => hin.2⟩

/-- **What is left of a room that is removed.**  Nobody is seated in it, and the other rooms are as
they were.  The own user goes to the lobby if it was in the room and the room was known, and stays
as it was otherwise. -/
theorem ReachableBy.vacated {lobby : Lobby}
    (h : lobby.ReachableBy fun _ notification => notification.WellSeated) (id : RoomId) :
    (lobby.roomRemoved id).room? id = none ∧
    (∀ session, (lobby.roomRemoved id).roomOf? session ≠ some id) ∧
    (∀ session, lobby.roomOf? session ≠ some id →
      (lobby.roomRemoved id).roomOf? session = lobby.roomOf? session ∧
      (lobby.roomRemoved id).user? session = lobby.user? session) ∧
    (∀ other, id ≠ other → (lobby.roomRemoved id).room? other = lobby.room? other) ∧
    (∀ own, lobby.selfSession = some own → lobby.knows id → lobby.SelfIn id →
      (lobby.roomRemoved id).selfUser = .inLobby own) ∧
    (¬ (lobby.knows id ∧ lobby.SelfIn id) → (lobby.roomRemoved id).selfUser = lobby.selfUser) ∧
    ((lobby.roomRemoved id).SelfIn id ↔ ¬ lobby.knows id ∧ lobby.SelfIn id) := by
  have hconsistent : lobby.Consistent := h.consistent fun _ _ hseated => hseated
  have hindex := roomOf?_roomRemoved (hconsistent.indexedAt id)
  have hfound := user?_roomRemoved (hconsistent.indexedAt id)
  refine ⟨?_, fun session => ?_, fun session hother => ?_, fun other hother => ?_, ?_,
    selfUser_roomRemoved_of_not, selfIn_roomRemoved⟩
  · rw [room?_roomRemoved, if_pos rfl]
  · rw [hindex]
    split
    · exact (nomatch ·)
    · assumption
  · rw [hindex, hfound, if_neg hother, if_neg hother]
    exact ⟨rfl, rfl⟩
  · rw [room?_roomRemoved, if_neg hother]
  · intro own hown hknows hin
    have hsession : lobby.selfUser.session = own := h.named own hown
    rw [selfUser_roomRemoved_of_knows hknows hin, hsession]

theorem vacated_afterMove :
    afterMove.ReachableBy (fun _ notification => notification.WellSeated) ∧
      afterMove.SelfIn ⟨2⟩ ∧ afterMove.roomOf? ⟨5⟩ = some ⟨2⟩ ∧
      (afterMove.roomRemoved ⟨2⟩).selfUser = .inLobby ⟨5⟩ ∧
      ¬ (afterMove.roomRemoved ⟨2⟩).SelfIn ⟨2⟩ := by
  have hreachable := afterMove_reachable.reachableBy
  have hin : afterMove.SelfIn ⟨2⟩ := ⟨by decide +kernel, by decide +kernel⟩
  have hknows : afterMove.knows ⟨2⟩ := by decide +kernel
  obtain ⟨-, -, -, -, hleaves, -, hstays⟩ := ReachableBy.vacated hreachable ⟨2⟩
  exact ⟨hreachable, hin, by decide +kernel, hleaves ⟨5⟩ (by decide +kernel) hknows hin,
    fun hstill => (hstays.1 hstill).1 hknows⟩

/-- Whoever is in an unknown room when that room is removed is in it still. -/
theorem self_left_behind :
    let lobby := (Lobby.empty.identify ⟨5⟩).userEntered (.inRoom ⟨5⟩ ⟨3⟩ 0)
    lobby.Reachable ∧ lobby.selfUser = .inRoom ⟨5⟩ ⟨3⟩ 0 ∧ ¬ lobby.knows ⟨3⟩ ∧
      (lobby.roomRemoved ⟨3⟩).selfUser = .inRoom ⟨5⟩ ⟨3⟩ 0 ∧
      (lobby.roomRemoved ⟨3⟩).SelfIn ⟨3⟩ := by
  have hentered := (Reachable.empty.identify ⟨5⟩).apply (.userEntered (.inRoom ⟨5⟩ ⟨3⟩ 0))
    (by rintro room ⟨⟩)
  exact ⟨hentered, by decide +kernel, by decide +kernel, by decide +kernel,
    ⟨by decide +kernel, by decide +kernel⟩⟩

end Multiplayer.Lobby
