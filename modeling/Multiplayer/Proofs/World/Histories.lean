import Multiplayer.Proofs.World.Consistency

/-!
# Histories of a lobby

A room can be copied out of a lobby and told of again, there or elsewhere, so that it need not be
a new one or one that was read.  Whatever is done to it, it stays well seated.

* `Lobby.ReachableBy` has the lobbies after histories of which every notification is admitted at
  the time at which it comes.
* `ReachableBy.consistent` asks no more of the rooms than that they are well seated.
-/

namespace Multiplayer

/-- The room of a snapshot has its members as users in it. -/
def Notification.WellSeated (notification : Notification) : Prop :=
  ∀ room, notification.snapshot? = some room → room.WellSeated

namespace Lobby

theorem Consistent.told {lobby : Lobby} (h : lobby.Consistent) {notification : Notification}
    (hseated : notification.WellSeated) : (notification.apply lobby).Consistent := by
  cases notification with
  | userUpdated user => exact h.userUpdated user
  | userEntered user => exact h.userEntered user
  | userExited session id => exact h.userExited session id
  | roomCreated room => exact h.roomCreated (hseated room rfl)
  | roomUpdated room => exact h.roomUpdated (hseated room rfl)
  | roomRemoved id => exact h.roomRemoved id
  | roomLocked id => exact h.roomLocked id
  | roomUnlocked id => exact h.roomUnlocked id

/-- The lobbies after histories in which every notification is admitted by the lobby to which it
is told. -/
inductive ReachableBy (admits : Lobby → Notification → Prop) : Lobby → Prop where
  | empty : ReachableBy admits .empty
  | identify {lobby : Lobby} (h : ReachableBy admits lobby) (session : SessionId) :
      ReachableBy admits (lobby.identify session)
  | beginEvent {lobby : Lobby} (h : ReachableBy admits lobby) (code : UInt16) :
      ReachableBy admits (lobby.beginEvent code)
  | apply {lobby : Lobby} (h : ReachableBy admits lobby) (notification : Notification)
      (hadmits : admits lobby notification) : ReachableBy admits (notification.apply lobby)

theorem ReachableBy.consistent {admits : Lobby → Notification → Prop}
    (hseated : ∀ lobby notification, admits lobby notification → notification.WellSeated)
    {lobby : Lobby} (h : lobby.ReachableBy admits) : lobby.Consistent := by
  induction h with
  | empty => exact .empty
  | identify _ session ih => exact ih.identify session
  | beginEvent _ code ih => exact ih.beginEvent code
  | apply _ notification hadmits ih => exact ih.told (hseated _ notification hadmits)

/-- Rooms that are new or were read are well seated. -/
theorem Reachable.reachableBy {lobby : Lobby} (h : lobby.Reachable) :
    lobby.ReachableBy fun _ notification => notification.WellSeated := by
  induction h with
  | empty => exact .empty
  | identify _ session ih => exact ih.identify session
  | beginEvent _ code ih => exact ih.beginEvent code
  | apply _ notification hmade ih =>
    exact ih.apply notification fun room hroom => (hmade room hroom).wellSeated

end Lobby

end Multiplayer
