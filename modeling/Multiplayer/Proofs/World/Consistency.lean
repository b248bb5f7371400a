import Multiplayer.Proofs.World.Seats

/-!
# The index and the members agree

Whatever is told to a lobby, in whatever order and about whichever rooms, its index says of every
session in which room it is, and the rooms say the same.

* `Lobby.Consistent` is what holds between index and rooms.
* `Lobby.Consistent.seat`, `Lobby.Consistent.adopt` and so on: no operation breaks it.
* `Lobby.Reachable.consistent` is the result for every history.
-/

namespace Multiplayer

/-! ## Rooms that are given to a lobby -/

namespace Room

/-- A room that somebody can have: a new one, or one that was read. -/
inductive Made : Room → Prop where
  | empty (id : RoomId) (kind : RoomKind) (capacity : UInt16) (owner : SessionId)
      (createdAt : Instant) : Made (.empty id kind capacity owner createdAt)
  | read {createdAt : Instant} {c c' : Cursor} {room : Room}
      (h : (decoder createdAt).run.run c = (.ok room, c')) : Made room

/-- Every member is entered under its session, as a user in this room. -/
def WellSeated (room : Room) : Prop :=
  ∀ session user, room.member? session = some user →
    user.session = session ∧ user.status = .inRoom ∧ user.room = room.id

theorem WellSeated.insert {room : Room} (h : room.WellSeated) (user : User) :
    (room.insert user).WellSeated := by
  intro session member hmember
  rw [member?_insert] at hmember
  split at hmember
  · rename_i hsession
    obtain rfl := Option.some.inj hmember
    exact ⟨hsession, rfl, rfl⟩
  · exact h session member hmember

theorem WellSeated.without {room : Room} (h : room.WellSeated) (sessions : List SessionId) :
    (room.without sessions).WellSeated := by
  intro session member hmember
  rw [member?_without] at hmember
  split at hmember
  · cases hmember
  · exact h session member hmember

theorem WellSeated.remove {room : Room} (h : room.WellSeated) (gone : SessionId) :
    (room.remove gone).WellSeated :=
  h.without [gone]

theorem wellSeated_foldl_insert {seats : List (SessionId × UInt16)} {room : Room}
    (h : room.WellSeated) (id : RoomId) :
    (seats.foldl (fun room (session, index) => room.insert (.inRoom session id index))
      room).WellSeated := by
  induction seats generalizing room with
  | nil => exact h
  | cons seat seats ih => exact ih (h.insert _)

theorem wellSeated_empty (id : RoomId) (kind : RoomKind) (capacity : UInt16) (owner : SessionId)
    (createdAt : Instant) : (empty id kind capacity owner createdAt).WellSeated := by
  intro session user hmember
  simp [member?, empty] at hmember

theorem Made.wellSeated {room : Room} (h : room.Made) : room.WellSeated := by
  cases h with
  | empty id kind capacity owner createdAt =>
    exact wellSeated_empty id kind capacity owner createdAt
  | read h =>
    obtain ⟨id, c₁, -, h⟩ := Attempt.run_bind_ok h
    obtain ⟨kind, c₂, -, h⟩ := Attempt.run_bind_ok h
    obtain ⟨capacity, c₃, -, h⟩ := Attempt.run_bind_ok h
    obtain ⟨owner, c₄, -, h⟩ := Attempt.run_bind_ok h
    obtain ⟨seats, c₅, -, h⟩ := Attempt.run_bind_ok h
    cases h
    exact wellSeated_foldl_insert (wellSeated_empty _ _ _ _ _) _

end Room

namespace Lobby

/-! ## The invariant -/

/-- Index and rooms agree, and every room is the one that it says it is. -/
structure Consistent (lobby : Lobby) : Prop where
  /-- A session is indexed in exactly those rooms that are known and have it as member. -/
  indexed : ∀ id session, lobby.roomOf? session = some id ↔
    ∃ room, lobby.room? id = some room ∧ room.contains session
  /-- A room is stored under its own identifier. -/
  stored : ∀ id room, lobby.room? id = some room → room.id = id
  /-- Members are entered under their sessions, as users in the room that has them. -/
  seated : ∀ id room, lobby.room? id = some room → room.WellSeated

namespace Consistent

variable {lobby : Lobby}

/-- The invariant, from what is said of the index and what is said of each room. -/
theorem of_rooms (hindexed : ∀ id, lobby.IndexedAt id)
    (hrooms : ∀ id room, lobby.room? id = some room → room.id = id ∧ room.WellSeated) :
    lobby.Consistent :=
  ⟨hindexed, fun id room hroom => (hrooms id room hroom).1,
    fun id room hroom => (hrooms id room hroom).2⟩

theorem indexedAt (h : lobby.Consistent) (id : RoomId) : lobby.IndexedAt id := h.indexed id

theorem proper (h : lobby.Consistent) {id : RoomId} {room : Room}
    (hroom : lobby.room? id = some room) : room.id = id ∧ room.WellSeated :=
  ⟨h.stored id room hroom, h.seated id room hroom⟩

theorem proper_map (h : lobby.Consistent) {f : Room → Room} {id : RoomId} {room : Room}
    (hroom : (lobby.room? id).map f = some room) (hid : ∀ room, (f room).id = room.id)
    (hf : ∀ room, room.WellSeated → (f room).WellSeated) : room.id = id ∧ room.WellSeated := by
  obtain ⟨old, hold, rfl⟩ := Option.map_eq_some_iff.1 hroom
  exact ⟨(hid old).trans (h.stored id old hold), hf old (h.seated id old hold)⟩

-- The own user and the record of the event do not take part.
theorem congr {lobby' : Lobby} (h : lobby.Consistent) (hrooms : lobby'.rooms = lobby.rooms)
    (hindex : lobby'.memberships = lobby.memberships) : lobby'.Consistent := by
  obtain ⟨rooms, memberships, selfSession, selfUser, last⟩ := lobby'
  cases hrooms
  cases hindex
  exact ⟨h.indexed, h.stored, h.seated⟩

theorem noted (h : lobby.Consistent) (last : EventRecord) :
    ({ lobby with last } : Lobby).Consistent :=
  h.congr rfl rfl

theorem empty : Lobby.empty.Consistent := by
  refine of_rooms (fun id session => ?_) fun id room hroom => ?_
  · simp [Lobby.empty, HasMember, roomOf?, room?]
  · simp [Lobby.empty, room?] at hroom

/-! ## Moving a session -/

theorem unseat (h : lobby.Consistent) (session : SessionId) (id : RoomId) :
    (lobby.unseat session id).Consistent := by
  refine of_rooms (fun other seated => ?_) fun other room hroom => ?_
  · rw [roomOf?_unseat, hasMember_unseat, ← h.indexedAt other seated]
    by_cases hsame : session = seated
    · subst hsame
      by_cases hid : lobby.roomOf? session = some id
      · simp [hid]
      · simp only [hid, and_false, if_false, and_true]
        exact ⟨fun hother => ⟨hother, fun heq => hid (heq ▸ hother)⟩, fun hother => hother.1⟩
    · simp [hsame]
  · rw [room?_unseat] at hroom
    split at hroom
    · exact h.proper_map hroom (fun _ => rfl) fun _ hold => hold.remove session
    · exact h.proper hroom

theorem leaveOther (h : lobby.Consistent) (session : SessionId) (id : RoomId) :
    (lobby.leaveOther session id).Consistent := by
  unfold Lobby.leaveOther
  split
  · rename_i prior hprior
    split
    · exact h
    · exact h.unseat session prior
  · exact h

theorem seat (h : lobby.Consistent) (user : User) : (lobby.seat user).Consistent := by
  by_cases hknows : lobby.knows user.room
  · have hleft := h.leaveOther user.session user.room
    refine of_rooms (fun other seated => ?_) fun other room hroom => ?_
    · rw [roomOf?_seat hknows, hasMember_seat hknows, ← hleft.indexedAt other seated,
        roomOf?_leaveOther]
      by_cases hsame : user.session = seated
      · subst hsame
        by_cases hid : lobby.roomOf? user.session = some user.room
        · simp [hid]
        · simp [hid]
      · simp [hsame]
    · rw [room?_seat hknows] at hroom
      split at hroom
      · exact h.proper_map hroom (fun _ => rfl) fun _ hold => hold.insert user
      · exact hleft.proper hroom
  · rw [seat_of_not_knows hknows]
    exact h.leaveOther user.session user.room

/-! ## Changing a room -/

theorem adopt (h : lobby.Consistent) {room : Room} (hroom : room.WellSeated) :
    (lobby.adopt room).Consistent := by
  refine of_rooms (fun other session => ?_) fun other found hfound => ?_
  · rw [roomOf?_adopt (h.indexedAt room.id), hasMember_adopt h.indexedAt,
      ← h.indexedAt other session]
    by_cases hcontains : room.contains session
    · simp [hcontains]
    · by_cases hid : lobby.roomOf? session = some room.id
      · simp [hcontains, hid]
      · rw [if_neg hcontains, if_neg hid]
        constructor
        · intro hother
          exact .inr ⟨fun heq => hid (heq ▸ hother), hother, hcontains⟩
        · rintro (⟨-, hcontains'⟩ | ⟨-, hother, -⟩)
          · exact absurd hcontains' hcontains
          · exact hother
  · rw [room?_adopt h.indexedAt] at hfound
    split at hfound
    · rename_i hid
      obtain rfl := Option.some.inj hfound
      exact ⟨hid, hroom⟩
    · exact h.proper_map hfound (fun _ => rfl) fun _ hold => hold.without room.sessions

theorem setStatus (h : lobby.Consistent) (id : RoomId) (status : RoomStatus) :
    (lobby.setStatus id status).Consistent := by
  refine of_rooms (fun other session => ?_) fun other room hroom => ?_
  · rw [hasMember_setStatus]
    exact h.indexedAt other session
  · rw [room?_setStatus] at hroom
    split at hroom
    · exact h.proper_map hroom (fun _ => rfl) fun _ hold => hold
    · exact h.proper hroom

theorem roomRemoved (h : lobby.Consistent) (id : RoomId) : (lobby.roomRemoved id).Consistent := by
  refine of_rooms (fun other session => ?_) fun other room hroom => ?_
  · rw [roomOf?_roomRemoved (h.indexedAt id), hasMember_roomRemoved, ← h.indexedAt other session]
    by_cases hid : lobby.roomOf? session = some id
    · simp [hid]
    · rw [if_neg hid]
      exact ⟨fun hother => ⟨hother, fun heq => hid (heq ▸ hother)⟩, fun hother => hother.1⟩
  · rw [room?_roomRemoved] at hroom
    split at hroom
    · cases hroom
    · exact h.proper hroom

/-! ## Notifications -/

theorem userUpdated (h : lobby.Consistent) (user : User) : (lobby.userUpdated user).Consistent := by
  rw [userUpdated_eq]
  split
  · exact h.congr rfl rfl
  · split
    · exact (h.noted _).seat user
    · exact h.congr rfl rfl

theorem roomOf?_leaveOther_of_unknown (h : lobby.Consistent) (session : SessionId) {id : RoomId}
    (hid : lobby.room? id = none) : (lobby.leaveOther session id).roomOf? session = none := by
  have hother : lobby.roomOf? session ≠ some id := by
    intro hindex
    obtain ⟨room, hroom, -⟩ := (h.indexed id session).1 hindex
    rw [hid] at hroom
    cases hroom
  rw [roomOf?_leaveOther, if_pos ⟨rfl, hother⟩]

-- Who enters an unknown room has been taken out of the others, and is indexed nowhere.
theorem userEntered (h : lobby.Consistent) (user : User) : (lobby.userEntered user).Consistent := by
  have hleft := h.leaveOther user.session user.room
  unfold Lobby.userEntered
  dsimp only
  cases hroom : (lobby.leaveOther user.session user.room).room? user.room with
  | some room => exact ((hleft.noted _).seat user).congr rfl rfl
  | none =>
    rw [room?_leaveOther_self] at hroom
    have hnowhere := h.roomOf?_leaveOther_of_unknown user.session hroom
    generalize lobby.leaveOther user.session user.room = left at hleft hnowhere ⊢
    refine of_rooms (fun other seated => ?_) fun other room hroom => hleft.proper hroom
    have herased : (left.memberships.erase user.session)[seated]? = left.roomOf? seated := by
      rw [getElem?_erase_session]
      by_cases hsame : user.session = seated
      · rw [if_pos hsame, ← hsame, hnowhere]
      · rw [if_neg hsame]
        rfl
    change (left.memberships.erase user.session)[seated]? = some other ↔ left.HasMember other seated
    rw [herased]
    exact hleft.indexedAt other seated

theorem userExited (h : lobby.Consistent) (session : SessionId) (id : RoomId) :
    (lobby.userExited session id).Consistent :=
  (h.unseat session id).congr rfl rfl

theorem roomCreated (h : lobby.Consistent) {room : Room} (hroom : room.WellSeated) :
    (lobby.roomCreated room).Consistent :=
  (h.noted _).adopt hroom

theorem roomUpdated (h : lobby.Consistent) {room : Room} (hroom : room.WellSeated) :
    (lobby.roomUpdated room).Consistent :=
  (h.noted _).adopt hroom

theorem roomLocked (h : lobby.Consistent) (id : RoomId) : (lobby.roomLocked id).Consistent :=
  (h.noted _).setStatus id .locked

theorem roomUnlocked (h : lobby.Consistent) (id : RoomId) : (lobby.roomUnlocked id).Consistent :=
  (h.noted _).setStatus id .unlocked

theorem identify (h : lobby.Consistent) (session : SessionId) :
    (lobby.identify session).Consistent :=
  h.congr rfl rfl

theorem beginEvent (h : lobby.Consistent) (code : UInt16) : (lobby.beginEvent code).Consistent :=
  h.noted _

end Consistent

end Lobby

/-- The room that comes with a notification. -/
def Notification.snapshot? : Notification → Option Room
  | .roomCreated room => some room
  | .roomUpdated room => some room
  | _ => none

theorem Lobby.Consistent.apply {lobby : Lobby} (h : lobby.Consistent) {notification : Notification}
    (hmade : ∀ room, notification.snapshot? = some room → room.Made) :
    (notification.apply lobby).Consistent := by
  cases notification with
  | userUpdated user => exact h.userUpdated user
  | userEntered user => exact h.userEntered user
  | userExited session id => exact h.userExited session id
  | roomCreated room => exact h.roomCreated (hmade room rfl).wellSeated
  | roomUpdated room => exact h.roomUpdated (hmade room rfl).wellSeated
  | roomRemoved id => exact h.roomRemoved id
  | roomLocked id => exact h.roomLocked id
  | roomUnlocked id => exact h.roomUnlocked id

/-! ## Histories -/

namespace Lobby

/-- The lobbies that there can be. -/
inductive Reachable : Lobby → Prop where
  | empty : Reachable .empty
  | identify {lobby : Lobby} (h : Reachable lobby) (session : SessionId) :
      Reachable (lobby.identify session)
  | beginEvent {lobby : Lobby} (h : Reachable lobby) (code : UInt16) :
      Reachable (lobby.beginEvent code)
  | apply {lobby : Lobby} (h : Reachable lobby) (notification : Notification)
      (hmade : ∀ room, notification.snapshot? = some room → room.Made) :
      Reachable (notification.apply lobby)

theorem Reachable.consistent {lobby : Lobby} (h : lobby.Reachable) : lobby.Consistent := by
  induction h with
  | empty => exact .empty
  | identify _ session ih => exact ih.identify session
  | beginEvent _ code ih => exact ih.beginEvent code
  | apply _ notification hmade ih => exact ih.apply hmade

namespace Consistent

variable {lobby : Lobby}

theorem eq_of_contains (h : lobby.Consistent) {session : SessionId} {id id' : RoomId}
    {room room' : Room} (hroom : lobby.room? id = some room) (hroom' : lobby.room? id' = some room')
    (hcontains : room.contains session) (hcontains' : room'.contains session) : id = id' := by
  have hindex := (h.indexed id session).2 ⟨room, hroom, hcontains⟩
  have hindex' := (h.indexed id' session).2 ⟨room', hroom', hcontains'⟩
  exact Option.some.inj (hindex.symm.trans hindex')

theorem isSome_user?_iff (h : lobby.Consistent) (session : SessionId) :
    (lobby.user? session).isSome ↔ (lobby.roomOf? session).isSome := by
  unfold user?
  cases hindex : lobby.roomOf? session with
  | none => simp
  | some id =>
    obtain ⟨room, hroom, hcontains⟩ := (h.indexed id session).1 hindex
    rw [Room.contains_eq_isSome] at hcontains
    simp [hroom, hcontains]

end Consistent

/-- **Index and rooms agree.**  After every history the index has a session in a room exactly if the
room is known and has it as member.  So a session is in at most one room, and the seated sessions
are those for which there is a user. -/
theorem Reachable.index_agrees {lobby : Lobby} (h : lobby.Reachable) :
    (∀ session id, lobby.roomOf? session = some id ↔
      ∃ room, lobby.room? id = some room ∧ room.contains session) ∧
    (∀ id room, lobby.room? id = some room → room.id = id) ∧
    (∀ id room session user, lobby.room? id = some room → room.member? session = some user →
      user.session = session ∧ user.status = .inRoom ∧ user.room = room.id) ∧
    (∀ session id id' room room', lobby.room? id = some room → lobby.room? id' = some room' →
      room.contains session → room'.contains session → id = id') ∧
    ∀ session, (lobby.user? session).isSome ↔ (lobby.roomOf? session).isSome := by
  have hconsistent := h.consistent
  refine ⟨fun session id => hconsistent.indexed id session, hconsistent.stored, ?_, ?_,
    hconsistent.isSome_user?_iff⟩
  · intro id room session user hroom hmember
    exact hconsistent.seated id room hroom session user hmember
  · intro session id id' room room' hroom hroom' hcontains hcontains'
    exact hconsistent.eq_of_contains hroom hroom' hcontains hcontains'

/-- Two rooms are made, and a session enters the first one and then the second one. -/
def afterMove : Lobby :=
  let lobby := (Lobby.empty.identify ⟨5⟩).beginEvent 0x0102
  let lobby := lobby.roomCreated (.empty ⟨1⟩ .normal 4 ⟨5⟩ ⟨0⟩)
  let lobby := lobby.roomCreated (.empty ⟨2⟩ .normal 4 ⟨5⟩ ⟨0⟩)
  (lobby.userEntered (.inRoom ⟨5⟩ ⟨1⟩ 0)).userEntered (.inRoom ⟨5⟩ ⟨2⟩ 0)

theorem afterMove_reachable : afterMove.Reachable := by
  have hstart := (Reachable.empty.identify ⟨5⟩).beginEvent 0x0102
  have hfirst := hstart.apply (.roomCreated (.empty ⟨1⟩ .normal 4 ⟨5⟩ ⟨0⟩)) (by
    rintro room ⟨⟩
    exact .empty _ _ _ _ _)
  have hsecond := hfirst.apply (.roomCreated (.empty ⟨2⟩ .normal 4 ⟨5⟩ ⟨0⟩)) (by
    rintro room ⟨⟩
    exact .empty _ _ _ _ _)
  have hentered := hsecond.apply (.userEntered (.inRoom ⟨5⟩ ⟨1⟩ 0)) (by rintro room ⟨⟩)
  exact hentered.apply (.userEntered (.inRoom ⟨5⟩ ⟨2⟩ 0)) (by rintro room ⟨⟩)

theorem index_agrees_afterMove :
    afterMove.Reachable ∧ afterMove.roomOf? ⟨5⟩ = some ⟨2⟩ ∧
      (∃ room, afterMove.room? ⟨2⟩ = some room ∧ room.contains ⟨5⟩) ∧
      (afterMove.user? ⟨5⟩).isSome := by
  have hagrees := afterMove_reachable.index_agrees
  have hindex : afterMove.roomOf? ⟨5⟩ = some ⟨2⟩ := by decide +kernel
  refine ⟨afterMove_reachable, hindex, (hagrees.1 ⟨5⟩ ⟨2⟩).1 hindex, ?_⟩
  rw [hagrees.2.2.2.2 ⟨5⟩, hindex]
  rfl

end Lobby

end Multiplayer
