import Multiplayer.Proofs.World.Seating

/-!
# What an update of a user does to the seats

An update of another user is taken over if the user reports a room and that room is known.  Any
other update is ignored, so that a user who is seated stays seated, whatever it reports.

* `Hosts` says which updates are taken over.
* `Consistent.user?_of_hosts` and `userUpdated_of_not_hosts`: the two kinds of updates.
* `ReachableBy.seats_after_update` is the result.
* `seated_in_lobby`: a user who is reported to be in the lobby, and one who is reported to be in an
  unknown room, and who still sit in the room in which they sat before.
-/

namespace Multiplayer.Lobby

/-- The user is reported to be in a room, and the room is known. -/
def Hosts (lobby : Lobby) (user : User) : Prop := user.isInRoom ∧ lobby.knows user.room

variable {lobby : Lobby} {user : User}

/-- Who is a member of a room and is reported to be there is reported to be in a known room. -/
theorem HasMember.hosts {session : SessionId} {id : RoomId} (h : lobby.HasMember id session)
    (hin : user.isInRoom) (hroom : user.room = id) : lobby.Hosts user := by
  obtain ⟨room, hfound, -⟩ := h
  refine ⟨hin, ?_⟩
  rw [knows_eq_isSome, hroom, hfound]
  rfl

/-! ## Updates that are taken over -/

theorem Consistent.seated_eq (h : lobby.Consistent) {room : Room}
    (hroom : lobby.room? user.room = some room) (hin : user.isInRoom) :
    room.seated user = user := by
  obtain ⟨session, status, id, index⟩ := user
  obtain rfl : status = .inRoom := of_decide_eq_true hin
  rw [Room.seated, h.stored id room hroom]

/-- Who is reported to be in a known room is found there, as it was reported. -/
theorem Consistent.user?_of_hosts (h : lobby.Consistent) (hother : ¬ lobby.isSelf user.session)
    (hhosts : lobby.Hosts user) : (lobby.userUpdated user).user? user.session = some user := by
  have hknows := hhosts.2
  rw [knows_eq_isSome] at hknows
  obtain ⟨room, hroom⟩ := Option.isSome_iff_exists.1 hknows
  rw [user?_userUpdated, if_pos ⟨rfl, hother, hhosts⟩, hroom, Option.map_some,
    h.seated_eq hroom hhosts.1]

theorem Consistent.roomOf?_of_hosts (h : lobby.Consistent) (hother : ¬ lobby.isSelf user.session)
    (hhosts : lobby.Hosts user) :
    (lobby.userUpdated user).roomOf? user.session = some user.room := by
  rw [(h.userUpdated user).roomOf?_eq_map, h.user?_of_hosts hother hhosts, Option.map_some]

/-- It is a member of that room, and of no other. -/
theorem Consistent.hasMember_of_hosts (h : lobby.Consistent) (hother : ¬ lobby.isSelf user.session)
    (hhosts : lobby.Hosts user) (id : RoomId) :
    (lobby.userUpdated user).HasMember id user.session ↔ id = user.room := by
  rw [← (h.userUpdated user).indexedAt, h.roomOf?_of_hosts hother hhosts, Option.some.injEq]
  exact eq_comm

/-! ## Updates that are ignored -/

/-- Only the record of the event says that there was an update. -/
theorem userUpdated_of_not_hosts (hother : ¬ lobby.isSelf user.session) (h : ¬ lobby.Hosts user) :
    lobby.userUpdated user =
      { lobby with last := { lobby.last with triggeredUser := some user } } := by
  have hseats : ¬ (user.isInRoom && lobby.knows user.room) := by
    rwa [Bool.and_eq_true]
  rw [userUpdated_eq, if_neg hother, if_neg hseats]
  rfl

theorem hasMember_of_not_hosts (hother : ¬ lobby.isSelf user.session) (h : ¬ lobby.Hosts user)
    (id : RoomId) (session : SessionId) :
    (lobby.userUpdated user).HasMember id session ↔ lobby.HasMember id session := by
  rw [userUpdated_of_not_hosts hother h]
  rfl

/-! ## Both kinds -/

/-- Who sits in a room in which it is not reported was there before, and the update was ignored. -/
theorem Consistent.hasMember_elsewhere (h : lobby.Consistent)
    (hother : ¬ lobby.isSelf user.session) (id : RoomId) :
    (lobby.userUpdated user).HasMember id user.session ∧ ¬ (user.isInRoom ∧ user.room = id) ↔
      lobby.HasMember id user.session ∧ ¬ lobby.Hosts user := by
  by_cases hhosts : lobby.Hosts user
  · rw [h.hasMember_of_hosts hother hhosts]
    constructor
    · rintro ⟨rfl, helsewhere⟩
      exact absurd ⟨hhosts.1, rfl⟩ helsewhere
    · exact fun hboth => absurd hhosts hboth.2
  · rw [hasMember_of_not_hosts hother hhosts]
    constructor
    · exact fun hboth => ⟨hboth.1, hhosts⟩
    · exact fun hboth => ⟨hboth.1, fun hthere => hhosts (hboth.1.hosts hthere.1 hthere.2)⟩

/-- **What an update of another user does to its seat.**  A user who is reported to be in a known
room is found there and nowhere else.  A user who is reported to be in the lobby or in an unknown
room keeps the seat that it had. -/
theorem ReachableBy.seats_after_update
    (h : lobby.ReachableBy fun _ notification => notification.WellSeated)
    (hother : lobby.selfSession ≠ some user.session) :
    (lobby.Hosts user →
      (lobby.userUpdated user).user? user.session = some user ∧
      (lobby.userUpdated user).roomOf? user.session = some user.room ∧
      ∀ id, (lobby.userUpdated user).HasMember id user.session ↔ id = user.room) ∧
    (¬ lobby.Hosts user → lobby.userUpdated user =
      { lobby with last := { lobby.last with triggeredUser := some user } }) ∧
    (¬ lobby.Hosts user → lobby.roomOf? user.session = none →
      (lobby.userUpdated user).roomOf? user.session = none ∧
      ∀ id, ¬ (lobby.userUpdated user).HasMember id user.session) ∧
    ∀ id, (lobby.userUpdated user).HasMember id user.session ∧
        ¬ (user.isInRoom ∧ user.room = id) ↔
      lobby.HasMember id user.session ∧ ¬ lobby.Hosts user := by
  have hconsistent : lobby.Consistent := h.consistent fun _ _ hseated => hseated
  have hself : ¬ lobby.isSelf user.session := fun hself => hother (of_decide_eq_true hself)
  refine ⟨fun hhosts => ⟨?_, ?_, ?_⟩, userUpdated_of_not_hosts hself, fun hhosts hnowhere => ?_,
    hconsistent.hasMember_elsewhere hself⟩
  · exact hconsistent.user?_of_hosts hself hhosts
  · exact hconsistent.roomOf?_of_hosts hself hhosts
  · exact hconsistent.hasMember_of_hosts hself hhosts
  · rw [userUpdated_of_not_hosts hself hhosts]
    refine ⟨hnowhere, fun id hmember => ?_⟩
    have hindex := (hconsistent.indexed id user.session).2 hmember
    rw [hnowhere] at hindex
    cases hindex

/-- Two rooms are known, and another session than the own one sits in the first. -/
def company : Lobby :=
  let lobby := (Lobby.empty.identify ⟨5⟩).roomCreated (.empty ⟨1⟩ .normal 4 ⟨5⟩ ⟨0⟩)
  (lobby.roomCreated (.empty ⟨2⟩ .normal 4 ⟨5⟩ ⟨0⟩)).userEntered (.inRoom ⟨6⟩ ⟨1⟩ 3)

theorem company_reachable : company.Reachable := by
  have hfirst := (Reachable.empty.identify ⟨5⟩).apply
    (.roomCreated (.empty ⟨1⟩ .normal 4 ⟨5⟩ ⟨0⟩)) (by
      rintro room ⟨⟩
      exact .empty _ _ _ _ _)
  have hsecond := hfirst.apply (.roomCreated (.empty ⟨2⟩ .normal 4 ⟨5⟩ ⟨0⟩)) (by
    rintro room ⟨⟩
    exact .empty _ _ _ _ _)
  exact hsecond.apply (.userEntered (.inRoom ⟨6⟩ ⟨1⟩ 3)) (by rintro room ⟨⟩)

theorem seats_after_update_company :
    company.ReachableBy (fun _ notification => notification.WellSeated) ∧
      company.selfSession ≠ some ⟨6⟩ ∧ company.Hosts (.inRoom ⟨6⟩ ⟨2⟩ 1) ∧
      (∀ id, (company.userUpdated (.inRoom ⟨6⟩ ⟨2⟩ 1)).HasMember id ⟨6⟩ ↔ id = ⟨2⟩) ∧
      ¬ company.Hosts (.inLobby ⟨7⟩) ∧
      (company.userUpdated (.inLobby ⟨7⟩)).roomOf? ⟨7⟩ = none := by
  have hreachable := company_reachable.reachableBy
  have hother : company.selfSession ≠ some ⟨6⟩ := by decide +kernel
  have hhosts : company.Hosts (.inRoom ⟨6⟩ ⟨2⟩ 1) := ⟨by decide +kernel, by decide +kernel⟩
  have hignored : ¬ company.Hosts (.inLobby ⟨7⟩) := fun h => Bool.false_ne_true h.1
  have hmoved := @ReachableBy.seats_after_update company (.inRoom ⟨6⟩ ⟨2⟩ 1) hreachable hother
  have hstays := @ReachableBy.seats_after_update company (.inLobby ⟨7⟩) hreachable
    (by decide +kernel)
  exact ⟨hreachable, hother, hhosts, (hmoved.1 hhosts).2.2, hignored,
    (hstays.2.2.1 hignored (by decide +kernel)).1⟩

/-- Whoever sits in a room and is then reported to be in the lobby, or in a room that is not known,
still sits there. -/
theorem seated_in_lobby :
    company.Reachable ∧ company.selfSession ≠ some ⟨6⟩ ∧ ¬ company.knows ⟨3⟩ ∧
      (company.userUpdated (.inLobby ⟨6⟩)).roomOf? ⟨6⟩ = some ⟨1⟩ ∧
      (company.userUpdated (.inLobby ⟨6⟩)).HasMember ⟨1⟩ ⟨6⟩ ∧
      (company.userUpdated (.inRoom ⟨6⟩ ⟨3⟩ 0)).roomOf? ⟨6⟩ = some ⟨1⟩ ∧
      (company.userUpdated (.inRoom ⟨6⟩ ⟨3⟩ 0)).HasMember ⟨1⟩ ⟨6⟩ := by
  have hconsistent := company_reachable.consistent
  have hlobby : (company.userUpdated (.inLobby ⟨6⟩)).roomOf? ⟨6⟩ = some ⟨1⟩ := by decide +kernel
  have hunknown : (company.userUpdated (.inRoom ⟨6⟩ ⟨3⟩ 0)).roomOf? ⟨6⟩ = some ⟨1⟩ := by
    decide +kernel
  refine ⟨company_reachable, by decide +kernel, by decide +kernel, hlobby, ?_, hunknown, ?_⟩
  · exact ((hconsistent.userUpdated _).indexed ⟨1⟩ ⟨6⟩).1 hlobby
  · exact ((hconsistent.userUpdated _).indexed ⟨1⟩ ⟨6⟩).1 hunknown

end Multiplayer.Lobby
