import Multiplayer.World.Notification

/-!
# Seats

A lobby keeps who sits where twice: in the member maps of its rooms, and in an index from sessions
to rooms.  Here is what the operations do to both, look-up by look-up.

* `member?_insert`, `member?_remove`, `member?_without`: the members of a room.
* `room?_unseat`, `roomOf?_unseat` and so on: the rooms and the index of a lobby.
* `room?_adopt`, `roomOf?_adopt`: a snapshot takes its members out of all other rooms, if the
  index can be relied on for these.
-/

namespace Multiplayer

/-! ## Maps from sessions -/

section SessionMap

variable {β : Type}

theorem getElem?_insert_session (entries : Std.ExtTreeMap SessionId β)
    (session other : SessionId) (value : β) :
    (entries.insert session value)[other]? =
      if session = other then some value else entries[other]? := by
  simp only [Std.ExtTreeMap.getElem?_insert, Std.compare_eq_iff_eq]

theorem getElem?_erase_session (entries : Std.ExtTreeMap SessionId β)
    (session other : SessionId) :
    (entries.erase session)[other]? = if session = other then none else entries[other]? := by
  simp only [Std.ExtTreeMap.getElem?_erase, Std.compare_eq_iff_eq]

theorem getElem?_foldl_erase (sessions : List SessionId) (entries : Std.ExtTreeMap SessionId β)
    (other : SessionId) :
    (sessions.foldl (fun entries session => entries.erase session) entries)[other]? =
      if other ∈ sessions then none else entries[other]? := by
  induction sessions generalizing entries with
  | nil => simp
  | cons gone sessions ih =>
    rw [List.foldl_cons, ih, getElem?_erase_session]
    by_cases hgone : gone = other
    · simp [hgone]
    · simp [hgone, Ne.symm hgone]

end SessionMap

/-! ## Members of a room -/

namespace Room

theorem contains_eq_isSome (room : Room) (session : SessionId) :
    room.contains session = (room.member? session).isSome :=
  Std.ExtTreeMap.contains_eq_isSome_getElem?

theorem mem_sessions {room : Room} {session : SessionId} :
    session ∈ room.sessions ↔ room.contains session := by
  rw [sessions, Std.ExtTreeMap.mem_keys, contains, Std.ExtTreeMap.contains_iff_mem]

theorem member?_insert (room : Room) (user : User) (session : SessionId) :
    (room.insert user).member? session =
      if user.session = session then some (room.seated user) else room.member? session :=
  getElem?_insert_session room.members user.session session (room.seated user)

theorem member?_remove (room : Room) (gone session : SessionId) :
    (room.remove gone).member? session =
      if gone = session then none else room.member? session :=
  getElem?_erase_session room.members gone session

theorem contains_insert (room : Room) (user : User) (session : SessionId) :
    (room.insert user).contains session ↔ user.session = session ∨ room.contains session := by
  rw [contains_eq_isSome, member?_insert, contains_eq_isSome]
  by_cases h : user.session = session
  · simp [h]
  · simp [h]

theorem contains_remove (room : Room) (gone session : SessionId) :
    (room.remove gone).contains session ↔ gone ≠ session ∧ room.contains session := by
  rw [contains_eq_isSome, member?_remove, contains_eq_isSome]
  by_cases h : gone = session
  · simp [h]
  · simp [h]

theorem remove_eq_self {room : Room} {session : SessionId} (h : ¬ room.contains session) :
    room.remove session = room := by
  obtain ⟨id, kind, status, capacity, owner, createdAt, members⟩ := room
  simp only [remove, mk.injEq, true_and]
  ext1 other
  rw [getElem?_erase_session]
  by_cases hsame : session = other
  · rw [if_pos hsame, ← hsame]
    exact (Std.ExtTreeMap.getElem?_eq_none_of_contains_eq_false (Bool.eq_false_iff.2 h)).symm
  · rw [if_neg hsame]

/-- The room without some sessions. -/
def without (room : Room) (sessions : List SessionId) : Room :=
  { room with
    members := sessions.foldl (fun members session => members.erase session) room.members }

theorem member?_without (room : Room) (sessions : List SessionId) (session : SessionId) :
    (room.without sessions).member? session =
      if session ∈ sessions then none else room.member? session :=
  getElem?_foldl_erase sessions room.members session

theorem contains_without (room : Room) (sessions : List SessionId) (session : SessionId) :
    (room.without sessions).contains session ↔ session ∉ sessions ∧ room.contains session := by
  rw [contains_eq_isSome, member?_without, contains_eq_isSome]
  by_cases h : session ∈ sessions
  · simp [h]
  · simp [h]

end Room

namespace Lobby

/-- A room is known and has a session as member. -/
def HasMember (lobby : Lobby) (id : RoomId) (session : SessionId) : Prop :=
  ∃ room, lobby.room? id = some room ∧ room.contains session

/-! ## Taking a session out of a room -/

theorem knows_eq_isSome (lobby : Lobby) (id : RoomId) :
    lobby.knows id = (lobby.room? id).isSome :=
  Std.ExtTreeMap.contains_eq_isSome_getElem?

theorem getElem?_rooms_modify (rooms : Std.ExtTreeMap RoomId Room) (id other : RoomId)
    (f : Room → Room) :
    (rooms.modify id f)[other]? = if id = other then rooms[other]?.map f else rooms[other]? := by
  simp only [Std.ExtTreeMap.getElem?_modify, Std.compare_eq_iff_eq]
  by_cases h : id = other
  · rw [if_pos h, if_pos h, h]
  · rw [if_neg h, if_neg h]

theorem room?_unseat (lobby : Lobby) (session : SessionId) (id other : RoomId) :
    (lobby.unseat session id).room? other =
      if id = other then (lobby.room? other).map (·.remove session) else lobby.room? other :=
  getElem?_rooms_modify lobby.rooms id other (·.remove session)

theorem roomOf?_unseat (lobby : Lobby) (session other : SessionId) (id : RoomId) :
    (lobby.unseat session id).roomOf? other =
      if session = other ∧ lobby.roomOf? session = some id then none else lobby.roomOf? other := by
  by_cases h : lobby.roomOf? session = some id
  · simp only [unseat, h, if_true, and_true]
    exact getElem?_erase_session lobby.memberships session other
  · simp only [unseat, h, if_false, and_false]
    rfl

theorem hasMember_unseat {lobby : Lobby} {session seated : SessionId} {id other : RoomId} :
    (lobby.unseat session id).HasMember other seated ↔
      lobby.HasMember other seated ∧ ¬ (id = other ∧ session = seated) := by
  unfold HasMember
  rw [room?_unseat]
  by_cases hid : id = other
  · rw [if_pos hid]
    cases lobby.room? other with
    | none => simp
    | some room => simp [Room.contains_remove, hid, and_comm]
  · rw [if_neg hid]
    simp [hid]

theorem room?_leaveOther (lobby : Lobby) (session : SessionId) (id other : RoomId) :
    (lobby.leaveOther session id).room? other =
      if lobby.roomOf? session = some other ∧ other ≠ id then
        (lobby.room? other).map (·.remove session)
      else lobby.room? other := by
  unfold leaveOther
  cases hprior : lobby.roomOf? session with
  | none => simp
  | some prior =>
    by_cases hid : prior = id
    · have hboth : ¬ (prior = other ∧ other ≠ id) := fun h => h.2 (h.1.symm.trans hid)
      simp only [hid, if_true, Option.some.injEq]
      rw [if_neg (hid ▸ hboth)]
    · simp only [hid, if_false, room?_unseat, Option.some.injEq]
      by_cases hother : prior = other
      · rw [if_pos hother, if_pos ⟨hother, hother ▸ hid⟩]
      · rw [if_neg hother, if_neg fun h => hother h.1]

theorem roomOf?_leaveOther (lobby : Lobby) (session other : SessionId) (id : RoomId) :
    (lobby.leaveOther session id).roomOf? other =
      if session = other ∧ lobby.roomOf? session ≠ some id then none
      else lobby.roomOf? other := by
  unfold leaveOther
  cases hprior : lobby.roomOf? session with
  | none =>
    by_cases hother : session = other
    · subst hother
      simp [hprior]
    · simp [hother]
  | some prior =>
    by_cases hid : prior = id
    · simp [hid]
    · simp [hid, roomOf?_unseat, hprior]

theorem room?_leaveOther_self (lobby : Lobby) (session : SessionId) (id : RoomId) :
    (lobby.leaveOther session id).room? id = lobby.room? id := by
  rw [room?_leaveOther, if_neg fun h => h.2 rfl]

theorem knows_leaveOther (lobby : Lobby) (session : SessionId) (id : RoomId) :
    (lobby.leaveOther session id).knows id = lobby.knows id := by
  rw [knows_eq_isSome, room?_leaveOther_self, ← knows_eq_isSome]

/-! ## Seating one user -/

theorem seat_of_not_knows {lobby : Lobby} {user : User} (h : ¬ lobby.knows user.room) :
    lobby.seat user = lobby.leaveOther user.session user.room := by
  unfold seat
  rw [if_neg]
  rwa [knows_leaveOther]

theorem room?_seat {lobby : Lobby} {user : User} (h : lobby.knows user.room) (other : RoomId) :
    (lobby.seat user).room? other =
      if user.room = other then (lobby.room? other).map (·.insert user)
      else (lobby.leaveOther user.session user.room).room? other := by
  unfold seat
  rw [if_pos (by rwa [knows_leaveOther])]
  refine (getElem?_rooms_modify _ user.room other (·.insert user)).trans ?_
  by_cases hother : user.room = other
  · subst hother
    rw [if_pos rfl, if_pos rfl, ← room?_leaveOther_self lobby user.session]
    rfl
  · rw [if_neg hother, if_neg hother]
    rfl

theorem roomOf?_seat {lobby : Lobby} {user : User} (h : lobby.knows user.room)
    (other : SessionId) :
    (lobby.seat user).roomOf? other =
      if user.session = other then some user.room else lobby.roomOf? other := by
  unfold seat
  rw [if_pos (by rwa [knows_leaveOther])]
  refine (getElem?_insert_session _ user.session other user.room).trans ?_
  by_cases hother : user.session = other
  · rw [if_pos hother, if_pos hother]
  · rw [if_neg hother, if_neg hother]
    change (lobby.leaveOther user.session user.room).roomOf? other = _
    rw [roomOf?_leaveOther, if_neg fun h => hother h.1]

theorem hasMember_seat {lobby : Lobby} {user : User} (h : lobby.knows user.room)
    {other : RoomId} {seated : SessionId} :
    (lobby.seat user).HasMember other seated ↔
      user.room = other ∧ user.session = seated ∨
        (lobby.leaveOther user.session user.room).HasMember other seated := by
  unfold HasMember
  rw [room?_seat h]
  by_cases hother : user.room = other
  · subst hother
    rw [knows_eq_isSome] at h
    obtain ⟨room, hroom⟩ := Option.isSome_iff_exists.1 h
    rw [if_pos rfl, room?_leaveOther_self, hroom]
    simp [Room.contains_insert]
  · rw [if_neg hother]
    simp [hother]

/-! ## Updates of users -/

/-- The lobby with a user on record as the one whom the event is about. -/
def triggeredBy (lobby : Lobby) (user : User) : Lobby :=
  { lobby with last := { lobby.last with triggeredUser := some user } }

/-- An update of the own user replaces it, one of another user in a known room seats that user, and
any other is put on record and nothing else. -/
theorem userUpdated_eq (lobby : Lobby) (user : User) : lobby.userUpdated user =
    if lobby.isSelf user.session then { lobby.triggeredBy user with selfUser := user }
    else if user.isInRoom && lobby.knows user.room then (lobby.triggeredBy user).seat user
    else lobby.triggeredBy user :=
  rfl

/-! ## The index -/

/-- The index has those sessions in a room that are its members. -/
def IndexedAt (lobby : Lobby) (id : RoomId) : Prop :=
  ∀ session, lobby.roomOf? session = some id ↔ lobby.HasMember id session

/-! ## Taking a snapshot over -/

theorem roomOf?_claim (lobby : Lobby) (id : RoomId) (session other : SessionId) :
    (claim id lobby session).roomOf? other =
      if session = other then some id else lobby.roomOf? other := by
  refine (getElem?_insert_session _ session other id).trans ?_
  by_cases hother : session = other
  · rw [if_pos hother, if_pos hother]
  · rw [if_neg hother, if_neg hother]
    change (lobby.leaveOther session id).roomOf? other = _
    rw [roomOf?_leaveOther, if_neg fun h => hother h.1]

-- The index finds the room that has to give the session up, if there is one.
theorem room?_claim {lobby : Lobby} {id other : RoomId} (h : lobby.IndexedAt other)
    (hother : other ≠ id) (session : SessionId) :
    (claim id lobby session).room? other = (lobby.room? other).map (·.remove session) := by
  change (lobby.leaveOther session id).room? other = _
  rw [room?_leaveOther]
  by_cases hroom : lobby.roomOf? session = some other
  · rw [if_pos ⟨hroom, hother⟩]
  · rw [if_neg fun h => hroom h.1]
    cases hfound : lobby.room? other with
    | none => rfl
    | some room =>
      have hnot : ¬ room.contains session := fun hc => hroom ((h session).2 ⟨room, hfound, hc⟩)
      rw [Option.map_some, Room.remove_eq_self hnot]

theorem hasMember_claim {lobby : Lobby} {id other : RoomId} (h : lobby.IndexedAt other)
    (hother : other ≠ id) (session seated : SessionId) :
    (claim id lobby session).HasMember other seated ↔
      lobby.HasMember other seated ∧ session ≠ seated := by
  unfold HasMember
  rw [room?_claim h hother]
  cases lobby.room? other with
  | none => simp
  | some room => simp [Room.contains_remove, and_comm]

theorem IndexedAt.claim {lobby : Lobby} {id other : RoomId} (h : lobby.IndexedAt other)
    (hother : other ≠ id) (session : SessionId) : (claim id lobby session).IndexedAt other := by
  intro seated
  rw [roomOf?_claim, hasMember_claim h hother]
  by_cases hsame : session = seated
  · rw [if_pos hsame, Option.some.injEq]
    exact ⟨fun hid => absurd hid.symm hother, fun hmember => absurd hsame hmember.2⟩
  · rw [if_neg hsame, h seated]
    exact ⟨fun hmember => ⟨hmember, hsame⟩, fun hmember => hmember.1⟩

theorem roomOf?_claims (id : RoomId) (sessions : List SessionId) (lobby : Lobby)
    (session : SessionId) :
    (sessions.foldl (claim id) lobby).roomOf? session =
      if session ∈ sessions then some id else lobby.roomOf? session := by
  induction sessions generalizing lobby with
  | nil => simp
  | cons claimed sessions ih =>
    rw [List.foldl_cons, ih, roomOf?_claim]
    by_cases hclaimed : claimed = session
    · simp [hclaimed]
    · simp [hclaimed, Ne.symm hclaimed]

theorem room?_claims {id other : RoomId} (hother : other ≠ id) (sessions : List SessionId)
    {lobby : Lobby} (h : lobby.IndexedAt other) :
    (sessions.foldl (claim id) lobby).room? other =
      (lobby.room? other).map (·.without sessions) := by
  induction sessions generalizing lobby with
  | nil => exact Option.map_id'.symm
  | cons claimed sessions ih =>
    rw [List.foldl_cons, ih (h.claim hother claimed), room?_claim h hother, Option.map_map]
    rfl

/-- A snapshot as a lobby takes it over: a known room keeps its time. -/
def arrival (lobby : Lobby) (room : Room) : Room :=
  { room with createdAt := ((lobby.room? room.id).map Room.createdAt).getD room.createdAt }

/-- The lobby in which a snapshot claims its members. -/
def cleared (lobby : Lobby) (room : Room) : Lobby :=
  let dropped := (lobby.room? room.id).map fun old => old.sessions.filter (!room.contains ·)
  { lobby with
    memberships := unindex (dropped.getD []) lobby.memberships
    rooms := lobby.rooms.erase room.id }

theorem adopt_eq (lobby : Lobby) (room : Room) :
    lobby.adopt room =
      let claimed := room.sessions.foldl (claim room.id) (lobby.cleared room)
      { claimed with
        selfUser := claimed.selfAfter (lobby.arrival room)
        rooms := claimed.rooms.insert room.id (lobby.arrival room) } := by
  unfold adopt cleared arrival
  cases h : lobby.room? room.id with
  | none => rfl
  | some old => rfl

theorem room?_cleared {lobby : Lobby} {room : Room} {other : RoomId} (h : other ≠ room.id) :
    (lobby.cleared room).room? other = lobby.room? other := by
  simp only [room?, cleared, Std.ExtTreeMap.getElem?_erase, Std.compare_eq_iff_eq]
  rw [if_neg h.symm]

theorem roomOf?_cleared {lobby : Lobby} {room : Room} (h : lobby.IndexedAt room.id)
    (session : SessionId) :
    (lobby.cleared room).roomOf? session =
      if lobby.roomOf? session = some room.id ∧ ¬ room.contains session then none
      else lobby.roomOf? session := by
  refine (getElem?_foldl_erase _ lobby.memberships session).trans ?_
  have hdropped : session ∈ ((lobby.room? room.id).map fun old =>
      old.sessions.filter (!room.contains ·)).getD [] ↔
      lobby.roomOf? session = some room.id ∧ ¬ room.contains session := by
    rw [h session, HasMember]
    cases lobby.room? room.id with
    | none => simp
    | some old => simp [Room.mem_sessions]
  simp only [hdropped]
  rfl

theorem IndexedAt.cleared {lobby : Lobby} {room : Room} {other : RoomId}
    (hroom : lobby.IndexedAt room.id) (h : lobby.IndexedAt other) (hother : other ≠ room.id) :
    (lobby.cleared room).IndexedAt other := by
  intro session
  unfold HasMember
  rw [roomOf?_cleared hroom, room?_cleared hother]
  change _ ↔ lobby.HasMember other session
  rw [← h session]
  by_cases hgone : lobby.roomOf? session = some room.id ∧ ¬ room.contains session
  · rw [if_pos hgone, hgone.1, Option.some.injEq]
    exact ⟨fun hnone => (nomatch hnone), fun hid => absurd hid.symm hother⟩
  · rw [if_neg hgone]

theorem room?_adopt {lobby : Lobby} (h : ∀ id, lobby.IndexedAt id) (room : Room)
    (other : RoomId) :
    (lobby.adopt room).room? other =
      if room.id = other then some (lobby.arrival room)
      else (lobby.room? other).map (·.without room.sessions) := by
  rw [adopt_eq]
  simp only [room?, Std.ExtTreeMap.getElem?_insert, Std.compare_eq_iff_eq]
  by_cases hother : room.id = other
  · rw [if_pos hother, if_pos hother]
  · rw [if_neg hother, if_neg hother]
    have hne : other ≠ room.id := Ne.symm hother
    have hindexed := (h room.id).cleared (h other) hne
    exact (room?_claims hne room.sessions hindexed).trans (by rw [room?_cleared hne]; rfl)

theorem roomOf?_adopt {lobby : Lobby} {room : Room} (h : lobby.IndexedAt room.id)
    (session : SessionId) :
    (lobby.adopt room).roomOf? session =
      if room.contains session then some room.id
      else if lobby.roomOf? session = some room.id then none
      else lobby.roomOf? session := by
  rw [adopt_eq]
  refine (roomOf?_claims room.id room.sessions (lobby.cleared room) session).trans ?_
  rw [roomOf?_cleared h]
  by_cases hcontains : room.contains session
  · rw [if_pos (Room.mem_sessions.2 hcontains), if_pos hcontains]
  · rw [if_neg fun hmem => hcontains (Room.mem_sessions.1 hmem), if_neg hcontains]
    simp only [hcontains, Bool.false_eq_true, not_false_eq_true, and_true]

theorem hasMember_adopt {lobby : Lobby} (h : ∀ id, lobby.IndexedAt id) {room : Room}
    {other : RoomId} {session : SessionId} :
    (lobby.adopt room).HasMember other session ↔
      room.id = other ∧ room.contains session ∨
        room.id ≠ other ∧ lobby.HasMember other session ∧ ¬ room.contains session := by
  unfold HasMember
  rw [room?_adopt h]
  by_cases hother : room.id = other
  · rw [if_pos hother]
    simp [hother, arrival, Room.contains]
  · rw [if_neg hother]
    simp only [hother, false_and, false_or, ne_eq, not_false_eq_true, true_and]
    cases lobby.room? other with
    | none => simp
    | some old => simp [Room.contains_without, Room.mem_sessions, and_comm]

/-! ## Other changes of a room -/

theorem room?_setStatus (lobby : Lobby) (id other : RoomId) (status : RoomStatus) :
    (lobby.setStatus id status).room? other =
      if id = other then (lobby.room? other).map ({ · with status }) else lobby.room? other :=
  getElem?_rooms_modify lobby.rooms id other ({ · with status })

theorem hasMember_setStatus {lobby : Lobby} {id other : RoomId} {status : RoomStatus}
    {session : SessionId} :
    (lobby.setStatus id status).HasMember other session ↔ lobby.HasMember other session := by
  unfold HasMember
  rw [room?_setStatus]
  by_cases hother : id = other
  · rw [if_pos hother]
    cases lobby.room? other with
    | none => simp
    | some room => simp [Room.contains]
  · rw [if_neg hother]

theorem room?_roomRemoved (lobby : Lobby) (id other : RoomId) :
    (lobby.roomRemoved id).room? other = if id = other then none else lobby.room? other := by
  have hsame (last : EventRecord) : ({ lobby with last } : Lobby).room? id = lobby.room? id := rfl
  simp only [roomRemoved, hsame]
  cases hroom : lobby.room? id with
  | none =>
    by_cases hother : id = other
    · rw [if_pos hother, ← hother]
      exact hroom
    · rw [if_neg hother]
      rfl
  | some room =>
    simp only [room?, Std.ExtTreeMap.getElem?_erase, Std.compare_eq_iff_eq]

theorem hasMember_roomRemoved {lobby : Lobby} {id other : RoomId} {session : SessionId} :
    (lobby.roomRemoved id).HasMember other session ↔
      lobby.HasMember other session ∧ id ≠ other := by
  unfold HasMember
  rw [room?_roomRemoved]
  by_cases hother : id = other
  · simp [hother]
  · simp [hother]

theorem roomOf?_roomRemoved {lobby : Lobby} {id : RoomId} (h : lobby.IndexedAt id)
    (session : SessionId) :
    (lobby.roomRemoved id).roomOf? session =
      if lobby.roomOf? session = some id then none else lobby.roomOf? session := by
  have hsame (last : EventRecord) : ({ lobby with last } : Lobby).room? id = lobby.room? id := rfl
  simp only [roomRemoved, hsame, h session, HasMember]
  cases hroom : lobby.room? id with
  | none => simp [roomOf?]
  | some room =>
    refine (getElem?_foldl_erase room.sessions lobby.memberships session).trans ?_
    simp [Room.mem_sessions, roomOf?]

end Lobby

end Multiplayer
