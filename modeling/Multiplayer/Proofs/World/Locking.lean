import Mathlib.Data.List.Basic
import Multiplayer.Proofs.World.Snapshots

/-!
# Whether a room is locked

Locking and unlocking a room say what its status is, and so does every snapshot of it, although a
snapshot has nothing on the wire to say it with: the room that is read is unlocked, and it takes
the place of the one that was known.

* `Notification.status?` is what a notification says of the status of a room.
* `Consistent.status?_apply`, `Consistent.status?_after`: one notification, and any history.
* `ReachableBy.latest_status` is the result.
* `unlocked_by_snapshot`: a locked room that is unlocked without having been unlocked.
-/

namespace Multiplayer

namespace Notification

/-- What a notification that a room is locked or unlocked says of a room. -/
def lock? (id : RoomId) : Notification → Option RoomStatus
  | .roomLocked other => if other = id then some .locked else none
  | .roomUnlocked other => if other = id then some .unlocked else none
  | _ => none

/-- The snapshot of a room that comes with a notification. -/
def snapshotOf? (id : RoomId) (notification : Notification) : Option Room :=
  notification.snapshot?.filter (·.id = id)

/-- What a notification says of the status of a room, in one way or the other. -/
def status? (id : RoomId) (notification : Notification) : Option RoomStatus :=
  (notification.lock? id).or ((notification.snapshotOf? id).map Room.status)

theorem status?_of_snapshotOf?_eq_none {id : RoomId} {notification : Notification}
    (h : notification.snapshotOf? id = none) : notification.status? id = notification.lock? id := by
  rw [status?, h, Option.map_none, Option.or_none]

/-- The snapshot of a room says what the status of that room is, and nothing of other rooms. -/
theorem status?_of_snapshot? {notification : Notification} {room : Room}
    (h : notification.snapshot? = some room) (id : RoomId) :
    notification.status? id = if room.id = id then some room.status else none := by
  cases notification with
  | roomCreated other | roomUpdated other =>
    obtain rfl := Option.some.inj h
    simp only [status?, lock?, Option.none_or, snapshotOf?, h, Option.filter, decide_eq_true_eq]
    split <;> rfl
  | _ => cases h

end Notification

/-! ## Snapshots -/

theorem Room.Made.status_eq {room : Room} (h : room.Made) : room.status = .unlocked := by
  cases h with
  | empty => rfl
  | read h =>
    obtain ⟨snapshot, -, -, rfl⟩ := exists_snapshot_of_run h
    exact congrArg RoomHead.status (snapshot.describes_room _).head

/-- Of rooms that are new or were read, only a lock says that they are locked. -/
theorem Notification.status?_eq_locked_iff {notification : Notification}
    (hmade : ∀ room, notification.snapshot? = some room → room.Made) {id : RoomId} :
    notification.status? id = some .locked ↔ notification = .roomLocked id := by
  have hsnapshot : (notification.snapshotOf? id).map Room.status ≠ some .locked := by
    intro h
    obtain ⟨room, hroom, hlocked⟩ := Option.map_eq_some_iff.1 h
    have hunlocked := (hmade room (Option.filter_eq_some_iff.1 hroom).1).status_eq
    rw [hlocked] at hunlocked
    cases hunlocked
  rw [status?]
  cases notification with
  | roomLocked other =>
    by_cases hid : other = id
    · simp [lock?, hid]
    · simp [lock?, hid, snapshotOf?, snapshot?]
  | roomUnlocked other =>
    by_cases hid : other = id
    · simp [lock?, hid]
    · simp [lock?, hid, snapshotOf?, snapshot?]
  | _ => simpa [lock?] using hsnapshot

namespace Lobby

/-- The status of a room that is known. -/
def status? (lobby : Lobby) (id : RoomId) : Option RoomStatus :=
  (lobby.room? id).map Room.status

theorem knows_eq_isSome_status? (lobby : Lobby) (id : RoomId) :
    lobby.knows id = (lobby.status? id).isSome := by
  rw [knows_eq_isSome, status?, Option.isSome_map]

theorem status?_eq (lobby : Lobby) (id : RoomId) :
    lobby.status? id = (lobby.seating.room? id).map RoomHead.status := by
  change _ = ((lobby.room? id).map Room.head).map RoomHead.status
  rw [Option.map_map]
  rfl

/-! ## One notification -/

theorem status_adopt (s : Seating) (room : Room) (id : RoomId) :
    ((s.adopt room).room? id).map RoomHead.status =
      if room.id = id then some room.status else (s.room? id).map RoomHead.status := by
  simp only [Seating.adopt, Function.update_apply]
  by_cases hid : room.id = id
  · rw [if_pos hid.symm, if_pos hid]
    rfl
  · rw [if_neg (Ne.symm hid), if_neg hid]

theorem status_mark (s : Seating) (marked id : RoomId) (status : RoomStatus) :
    ((s.mark marked status).room? id).map RoomHead.status =
      if marked = id then (s.room? id).map fun _ => status
      else (s.room? id).map RoomHead.status := by
  simp only [Seating.mark, Function.update_apply]
  by_cases hid : marked = id
  · rw [if_pos hid.symm, if_pos hid, hid, Option.map_map]
    rfl
  · rw [if_neg (Ne.symm hid), if_neg hid]

namespace Consistent

variable {lobby : Lobby}

/-- A notification of the room gives it the status of which it speaks, if the room is known
afterwards, and any other leaves the status of the room as it was. -/
theorem status?_apply (h : lobby.Consistent) {notification : Notification}
    (hseated : notification.WellSeated) {id : RoomId}
    (hknows : (notification.apply lobby).knows id) :
    (notification.apply lobby).status? id =
      (notification.status? id).or (lobby.status? id) := by
  rw [knows_eq_isSome_status?, status?_eq, h.seating_apply hseated] at hknows
  rw [status?_eq, status?_eq, h.seating_apply hseated]
  cases notification with
  | userUpdated user =>
    simp only [Seating.after]
    split <;> rfl
  | userEntered user => rfl
  | userExited session other =>
    simp only [Seating.after]
    split <;> rfl
  | roomCreated room | roomUpdated room =>
    rw [Seating.after, status_adopt]
    rw [Notification.status?_of_snapshot? rfl]
    split <;> rfl
  | roomRemoved other =>
    simp only [Seating.after, Seating.close, Function.update_apply] at hknows ⊢
    by_cases hid : id = other
    · simp [hid] at hknows
    · rw [if_neg hid]
      rfl
  | roomLocked other | roomUnlocked other =>
    rw [Seating.after, status_mark] at hknows ⊢
    by_cases hid : other = id
    · rw [if_pos hid] at hknows ⊢
      cases hroom : lobby.seating.room? id with
      | none => simp [hroom] at hknows
      | some head => simp [hid, Notification.status?, Notification.lock?]
    · simp [hid, Notification.status?, Notification.lock?, Notification.snapshotOf?,
        Notification.snapshot?]

end Consistent

/-! ## Histories -/

/-- What can happen to a lobby. -/
inductive Change where
  | identify (session : SessionId)
  | beginEvent (code : UInt16)
  | told (notification : Notification)

namespace Change

def apply (lobby : Lobby) : Change → Lobby
  | .identify session => lobby.identify session
  | .beginEvent code => lobby.beginEvent code
  | .told notification => notification.apply lobby

def notification? : Change → Option Notification
  | .told notification => some notification
  | _ => none

/-- What a change says of the status of a room. -/
def status? (id : RoomId) (change : Change) : Option RoomStatus :=
  change.notification?.bind (·.status? id)

/-- What a change says of a room by locking or unlocking it. -/
def lock? (id : RoomId) (change : Change) : Option RoomStatus :=
  change.notification?.bind (·.lock? id)

/-- The snapshot of a room that comes with a change. -/
def snapshotOf? (id : RoomId) (change : Change) : Option Room :=
  change.notification?.bind (·.snapshotOf? id)

def WellSeated (change : Change) : Prop :=
  ∀ notification, change.notification? = some notification → notification.WellSeated

/-- The room of a snapshot is new or was read. -/
def Made (change : Change) : Prop :=
  ∀ notification room, change.notification? = some notification →
    notification.snapshot? = some room → room.Made

theorem Made.wellSeated {change : Change} (h : change.Made) : change.WellSeated :=
  fun notification hnotification room hroom => (h notification room hnotification hroom).wellSeated

theorem status?_of_snapshotOf?_eq_none {id : RoomId} {change : Change}
    (h : change.snapshotOf? id = none) : change.status? id = change.lock? id := by
  cases change with
  | told notification => exact Notification.status?_of_snapshotOf?_eq_none h
  | _ => rfl

theorem Made.status?_eq_locked_iff {change : Change} (h : change.Made) {id : RoomId} :
    change.status? id = some .locked ↔ change = .told (.roomLocked id) := by
  cases change with
  | told notification =>
    rw [told.injEq]
    exact Notification.status?_eq_locked_iff fun room hroom => h notification room rfl hroom
  | _ => simp [status?, notification?]

/-- While no snapshot of the room comes, the latest that is said of its status is the latest lock or
unlock. -/
theorem findSome?_status?_of_snapshotOf?_eq_none {id : RoomId} {changes : List Change}
    (h : ∀ change ∈ changes, change.snapshotOf? id = none) :
    changes.findSome? (·.status? id) = changes.findSome? (·.lock? id) := by
  rw [← List.head?_filterMap, ← List.head?_filterMap]
  refine congrArg List.head? (List.filterMap_congr fun change hchange => ?_)
  exact status?_of_snapshotOf?_eq_none (h change hchange)

/-- The latest that is said of the status is that the room is locked exactly if it has been locked
and nothing was said of it since. -/
theorem findSome?_status?_eq_locked_iff {id : RoomId} {changes : List Change}
    (hmade : ∀ change ∈ changes, change.Made) :
    changes.reverse.findSome? (·.status? id) = some .locked ↔
      ∃ earlier later, changes = earlier ++ .told (.roomLocked id) :: later ∧
        ∀ change ∈ later, change.status? id = none := by
  rw [List.findSome?_eq_some_iff]
  constructor
  · rintro ⟨later, change, earlier, hsplit, hlocked, hlater⟩
    have hmem : change ∈ changes := List.mem_reverse.1 (hsplit ▸ by simp)
    refine ⟨earlier.reverse, later.reverse, ?_, fun change hchange => ?_⟩
    · rw [← (hmade change hmem).status?_eq_locked_iff.1 hlocked, ← List.reverse_reverse changes,
        hsplit]
      simp
    · exact hlater change (List.mem_reverse.1 hchange)
  · rintro ⟨earlier, later, rfl, hlater⟩
    have hlocked := (hmade (.told (.roomLocked id)) (by simp)).status?_eq_locked_iff.2 rfl
    refine ⟨later.reverse, _, earlier.reverse, by simp, hlocked, fun change hchange => ?_⟩
    exact hlater change (List.mem_reverse.1 hchange)

end Change

/-- The lobby after some changes. -/
def after (lobby : Lobby) (changes : List Change) : Lobby := changes.foldl Change.apply lobby

namespace Consistent

variable {lobby : Lobby}

theorem change (h : lobby.Consistent) {change : Change} (hseated : change.WellSeated) :
    (change.apply lobby).Consistent := by
  cases change with
  | identify session => exact h.identify session
  | beginEvent code => exact h.beginEvent code
  | told notification => exact h.told (hseated notification rfl)

theorem status?_change (h : lobby.Consistent) {change : Change}
    (hseated : change.WellSeated) {id : RoomId} (hknows : (change.apply lobby).knows id) :
    (change.apply lobby).status? id = (change.status? id).or (lobby.status? id) := by
  cases change with
  | identify session => rfl
  | beginEvent code => rfl
  | told notification => exact h.status?_apply (hseated notification rfl) hknows

-- If the room is known only later on, then a snapshot of it has come, and what is said before that
-- does not matter.
theorem status?_after (h : lobby.Consistent) {changes : List Change}
    (hseated : ∀ change ∈ changes, change.WellSeated) {id : RoomId}
    (hknows : (lobby.after changes).knows id) :
    (lobby.after changes).status? id =
      (changes.reverse.findSome? (·.status? id)).or (lobby.status? id) := by
  induction changes generalizing lobby with
  | nil => rfl
  | cons change changes ih =>
    obtain ⟨hfirst, hothers⟩ := List.forall_mem_cons.1 hseated
    have hrest := ih (h.change hfirst) hothers hknows
    rw [List.reverse_cons, List.findSome?_append, Option.or_assoc, List.findSome?_singleton]
    change ((change.apply lobby).after changes).status? id = _
    rw [hrest]
    cases hlater : changes.reverse.findSome? (·.status? id) with
    | some status => rfl
    | none =>
      have hbetween : (change.apply lobby).knows id := by
        rw [hlater, Option.none_or] at hrest
        rw [knows_eq_isSome_status?, ← hrest, ← knows_eq_isSome_status?]
        exact hknows
      rw [Option.none_or, Option.none_or, h.status?_change hfirst hbetween]

end Consistent

/-- **What the status of a room follows.**  A room that is known has the status of which the latest
change spoke that spoke of it at all.  Locking and unlocking speak of it, and a snapshot says that
the room is unlocked. -/
theorem ReachableBy.latest_status {lobby : Lobby}
    (h : lobby.ReachableBy fun _ notification => notification.WellSeated) {changes : List Change}
    (hseated : ∀ change ∈ changes, change.WellSeated) {id : RoomId} {room : Room}
    (hroom : (lobby.after changes).room? id = some room) :
    some room.status = (changes.reverse.findSome? (·.status? id)).or (lobby.status? id) ∧
    ((∀ change ∈ changes, change.snapshotOf? id = none) →
      some room.status = (changes.reverse.findSome? (·.lock? id)).or (lobby.status? id)) ∧
    (lobby = .empty → (∀ change ∈ changes, change.Made) →
      (room.status = .locked ↔ ∃ earlier later,
        changes = earlier ++ .told (.roomLocked id) :: later ∧
          ∀ change ∈ later, change.status? id = none)) := by
  have hconsistent : lobby.Consistent := h.consistent fun _ _ hseated => hseated
  have hstatus : (lobby.after changes).status? id = some room.status := by
    rw [status?, hroom, Option.map_some]
  have hknows : (lobby.after changes).knows id := by
    rw [knows_eq_isSome_status?, hstatus, Option.isSome_some]
  have hlatest := hstatus.symm.trans (hconsistent.status?_after hseated hknows)
  refine ⟨hlatest, fun hnone => ?_, fun hempty hmade => ?_⟩
  · have hlocks := Change.findSome?_status?_of_snapshotOf?_eq_none fun change hchange =>
      hnone change (List.mem_reverse.1 hchange)
    rw [← hlocks]
    exact hlatest
  · have hnothing : lobby.status? id = none := by
      subst hempty
      rfl
    rw [hnothing, Option.or_none] at hlatest
    rw [← Option.some_inj, hlatest, Change.findSome?_status?_eq_locked_iff hmade]

/-- A room is locked while it is unknown, then created, locked, and entered by somebody. -/
def lockedEarly : List Change :=
  [.told (.roomLocked ⟨1⟩), .identify ⟨5⟩, .told (.roomCreated (.empty ⟨1⟩ .normal 4 ⟨5⟩ ⟨0⟩)),
    .told (.roomLocked ⟨1⟩), .beginEvent 0x8002, .told (.userEntered (.inRoom ⟨5⟩ ⟨1⟩ 0))]

theorem made_lockedEarly : ∀ change ∈ lockedEarly, change.Made := by
  intro change hchange notification room hnotification hroom
  simp only [lockedEarly, List.mem_cons, List.not_mem_nil, or_false] at hchange
  rcases hchange with rfl | rfl | rfl | rfl | rfl | rfl <;> cases hnotification <;> cases hroom
  exact .empty _ _ _ _ _

theorem latest_status_lockedEarly :
    Lobby.empty.ReachableBy (fun _ notification => notification.WellSeated) ∧
      (∀ change ∈ lockedEarly, change.Made) ∧
      ∃ room, (Lobby.empty.after lockedEarly).room? ⟨1⟩ = some room ∧ room.status = .locked := by
  have hseated : ∀ change ∈ lockedEarly, change.WellSeated :=
    fun change hchange => (made_lockedEarly change hchange).wellSeated
  have hknows : ((Lobby.empty.after lockedEarly).room? ⟨1⟩).isSome := by decide +kernel
  obtain ⟨room, hroom⟩ := Option.isSome_iff_exists.1 hknows
  refine ⟨.empty, made_lockedEarly, room, hroom, ?_⟩
  refine ((ReachableBy.empty.latest_status hseated hroom).2.2 rfl made_lockedEarly).2 ?_
  exact ⟨lockedEarly.take 3, lockedEarly.drop 4, rfl, by decide⟩

/-- What is written about a room with one member. -/
def oneMember : Snapshot := ⟨⟨1⟩, .normal, 4, ⟨5⟩, [(⟨7⟩, 0)], false, by decide⟩

/-- A room that is known and locked is not any more after its update, although it has not been
unlocked. -/
theorem unlocked_by_snapshot :
    let changes : List Change :=
      [.told (.roomCreated (.empty ⟨1⟩ .normal 4 ⟨5⟩ ⟨0⟩)), .told (.roomLocked ⟨1⟩)]
    let update := Change.told (.roomUpdated (oneMember.room ⟨0⟩))
    (∀ change ∈ changes ++ [update], change.Made) ∧
      (Room.decoder ⟨0⟩).decode [0, 1, 0, 0, 4, 0, 5, 0, 7, 0, 0] = .ok (oneMember.room ⟨0⟩) ∧
      (Lobby.empty.after changes).status? ⟨1⟩ = some .locked ∧
      (Lobby.empty.after (changes ++ [update])).status? ⟨1⟩ = some .unlocked ∧
      (changes ++ [update]).reverse.findSome? (·.lock? ⟨1⟩) = some .locked := by
  intro changes update
  have hread := oneMember.readsLast_bytes ⟨0⟩
  refine ⟨?_, hread.decode, by decide +kernel, by decide +kernel, rfl⟩
  intro change hchange notification room hnotification hroom
  simp only [changes, update, List.cons_append, List.nil_append, List.mem_cons, List.not_mem_nil,
    or_false] at hchange
  rcases hchange with rfl | rfl | rfl <;> cases hnotification <;> cases hroom
  · exact .empty _ _ _ _ _
  · exact .read (Prod.ext (hread 0) rfl)

end Lobby

end Multiplayer
