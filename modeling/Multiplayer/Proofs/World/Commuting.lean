import Multiplayer.Proofs.World.UnknownRooms
import Multiplayer.Proofs.World.UserUpdates

/-!
# Notifications about different users

What is told of one user concerns the seat of that user only, and depends on no other seat.  So it
does not matter in which order two users are told of.

* `Notification.subject?` is the session of which a notification tells.
* `Seating.after_eq_move`, `Seating.after_comm`: in a seating such a notification is one move, and
  moves of two sessions commute.
* `Consistent.eq_of_seating_eq`: a consistent lobby is determined by its seating, apart from the own
  user and the record of the event.
* `own_apply_comm`: the own user does not depend on the order either.
* `ReachableBy.users_commute` is the result.
-/

namespace Multiplayer

/-- The session of which a notification tells, if it tells of one user. -/
def Notification.subject? : Notification → Option SessionId
  | .userUpdated user | .userEntered user => some user.session
  | .userExited session _ => some session
  | _ => none

theorem Notification.wellSeated_of_subject? {notification : Notification} {session : SessionId}
    (h : notification.subject? = some session) : notification.WellSeated := by
  intro room hroom
  cases notification with
  | userUpdated | userEntered | userExited => cases hroom
  | _ => cases h

/-! ## Seatings -/

namespace Seating

theorem move_seat? (s : Seating) (session : SessionId) :
    s.move session (s.seat? session) = s :=
  Seating.ext rfl (Function.update_eq_self session s.seat?)

theorem seat?_move_of_ne (s : Seating) {session other : SessionId} (h : session ≠ other)
    (place? : Option (RoomId × UInt16)) : (s.move session place?).seat? other = s.seat? other := by
  unfold move
  exact Function.update_of_ne h.symm place? s.seat?

theorem move_comm (s : Seating) {session other : SessionId} (h : session ≠ other)
    (place? place'? : Option (RoomId × UInt16)) :
    (s.move session place?).move other place'? = (s.move other place'?).move session place? := by
  unfold move
  exact congrArg (Seating.mk s.room?) (Function.update_comm h place? place'? s.seat?)

/-- The seat of the subject after a notification, from the seat before. -/
def seatAfter (own? : Option SessionId) (knows : RoomId → Bool)
    (seat? : Option (RoomId × UInt16)) : Notification → Option (RoomId × UInt16)
  | .userUpdated user =>
    if own? ≠ some user.session ∧ user.isInRoom ∧ knows user.room then some user.place else seat?
  | .userEntered user => if knows user.room then some user.place else none
  | .userExited _ id => if seat?.any (·.1 = id) then none else seat?
  | _ => seat?

/-- What is told of one user moves that user only, and wherever the others sit. -/
theorem after_eq_move (own? : Option SessionId) (s : Seating) {notification : Notification}
    {session : SessionId} (h : notification.subject? = some session) :
    s.after own? notification =
      s.move session (seatAfter own? s.knows (s.seat? session) notification) := by
  cases notification with
  | userUpdated user =>
    obtain rfl := Option.some.inj h
    simp only [after, seatAfter]
    split
    · rfl
    · exact (s.move_seat? user.session).symm
  | userEntered user =>
    obtain rfl := Option.some.inj h
    rfl
  | userExited gone id =>
    obtain rfl := Option.some.inj h
    simp only [after, seatAfter]
    by_cases hin : (s.seat? gone).any (·.1 = id)
    · rw [if_pos hin]
      exact if_pos hin
    · rw [if_neg hin, move_seat?]
      exact if_neg hin
  | _ => cases h

theorem after_comm (own? : Option SessionId) (s : Seating) {first second : Notification}
    {a b : SessionId} (ha : first.subject? = some a) (hb : second.subject? = some b) (hab : a ≠ b) :
    (s.after own? first).after own? second = (s.after own? second).after own? first := by
  rw [s.after_eq_move own? ha, s.after_eq_move own? hb, after_eq_move own? _ ha,
    after_eq_move own? _ hb, seat?_move_of_ne s hab, seat?_move_of_ne s hab.symm]
  exact s.move_comm hab _ _

end Seating

/-! ## Lobbies with one seating -/

namespace Lobby

variable {lobby lobby' : Lobby}

namespace Consistent

/-- The user of a session is the one who has its seat. -/
theorem user?_eq_map_seat? (h : lobby.Consistent) (session : SessionId) : lobby.user? session =
    (lobby.seat? session).map fun place => .inRoom session place.1 place.2 := by
  rw [h.seat?_eq, Option.map_map]
  cases huser : lobby.user? session with
  | none => rfl
  | some user =>
    obtain ⟨room, hroom, hmember⟩ := h.user?_eq_some_iff.1 huser
    obtain ⟨rfl, hin, -⟩ := h.seated _ room hroom session user hmember
    rw [Option.map_some]
    exact congrArg (fun status => some (User.mk user.session status user.room user.index)) hin

/-- The members of a known room are the users who are found there. -/
theorem member?_eq_filter (h : lobby.Consistent) {id : RoomId} {room : Room}
    (hroom : lobby.room? id = some room) (session : SessionId) :
    room.member? session = (lobby.user? session).filter (·.room = id) := by
  refine Option.ext fun user => ?_
  rw [Option.filter_eq_some_iff, decide_eq_true_eq, h.user?_eq_some_iff]
  constructor
  · intro hmember
    have hid : user.room = id :=
      (h.seated id room hroom session user hmember).2.2.trans (h.stored id room hroom)
    exact ⟨⟨room, hid ▸ hroom, hmember⟩, hid⟩
  · rintro ⟨⟨found, hfound, hmember⟩, rfl⟩
    rwa [Option.some.inj (hroom.symm.trans hfound)]

/-- The seating of a consistent lobby determines its rooms and its index. -/
theorem eq_of_seating_eq (h : lobby.Consistent) (h' : lobby'.Consistent)
    (hseating : lobby.seating = lobby'.seating) :
    lobby.rooms = lobby'.rooms ∧ lobby.memberships = lobby'.memberships := by
  have husers (session : SessionId) : lobby.user? session = lobby'.user? session := by
    rw [h.user?_eq_map_seat?, h'.user?_eq_map_seat?]
    exact congrArg (Option.map _) (congrFun (congrArg Seating.seat? hseating) session)
  constructor
  · refine Std.ExtTreeMap.ext_getElem? fun id => ?_
    have hheads : (lobby.room? id).map Room.head = (lobby'.room? id).map Room.head :=
      congrFun (congrArg Seating.room? hseating) id
    change lobby.room? id = lobby'.room? id
    cases hroom : lobby.room? id with
    | none => exact (Option.map_eq_none_iff.1 (hheads.symm.trans (by rw [hroom]; rfl))).symm
    | some room =>
      rw [hroom, Option.map_some] at hheads
      obtain ⟨room', hroom', hhead⟩ := Option.map_eq_some_iff.1 hheads.symm
      rw [hroom']
      refine congrArg some (Room.eq_of_head_eq hhead.symm fun session => ?_)
      rw [h.member?_eq_filter hroom, h'.member?_eq_filter hroom', husers]
  · refine Std.ExtTreeMap.ext_getElem? fun session => ?_
    change lobby.roomOf? session = lobby'.roomOf? session
    rw [h.roomOf?_eq_map, h'.roomOf?_eq_map, husers]

end Consistent

/-! ## The own user -/

section Own

variable {notification : Notification} {session : SessionId}

theorem selfSession_apply (h : notification.subject? = some session) (lobby : Lobby) :
    (notification.apply lobby).selfSession = lobby.selfSession := by
  cases notification with
  | userUpdated user =>
    by_cases hself : lobby.isSelf user.session
    · exact (Prod.mk.inj (own_userUpdated_of_isSelf hself)).1
    · exact (Prod.mk.inj (own_userUpdated hself)).1
  | userEntered user => exact (Prod.mk.inj (lobby.own_userEntered user)).1
  | userExited => rfl
  | _ => cases h

/-- What is told of another user says nothing of the own one. -/
theorem own_apply_of_ne (h : notification.subject? = some session)
    (hother : lobby.selfSession ≠ some session) : (notification.apply lobby).own = lobby.own := by
  cases notification with
  | userUpdated user =>
    obtain rfl := Option.some.inj h
    exact own_userUpdated fun hself => hother (of_decide_eq_true hself)
  | userEntered user =>
    obtain rfl := Option.some.inj h
    change (lobby.userEntered user).own = _
    rw [own_userEntered, ownAfterEntry, if_neg (show lobby.own.1 ≠ _ from hother)]
  | userExited gone id =>
    obtain rfl := Option.some.inj h
    change (lobby.userExited gone id).own = _
    rw [own_userExited, if_neg fun hself => hother (of_decide_eq_true hself.1)]
    rfl
  | _ => cases h

/-- The own user after a notification follows from the own user before and from which rooms are
known. -/
theorem own_apply_congr (h : notification.subject? = some session) (hown : lobby.own = lobby'.own)
    (hknows : ∀ id, lobby.knows id = lobby'.knows id) :
    (notification.apply lobby).own = (notification.apply lobby').own := by
  obtain ⟨hsession, huser⟩ := Prod.mk.inj hown
  have hself (other : SessionId) : lobby.isSelf other = lobby'.isSelf other := by
    rw [isSelf, isSelf, hsession]
  cases notification with
  | userUpdated user =>
    change (lobby.userUpdated user).own = (lobby'.userUpdated user).own
    by_cases hown' : lobby.isSelf user.session
    · rw [own_userUpdated_of_isSelf hown', own_userUpdated_of_isSelf (hself _ ▸ hown'), hsession]
    · rw [own_userUpdated hown', own_userUpdated (hself _ ▸ hown'), hown]
  | userEntered user =>
    change (lobby.userEntered user).own = (lobby'.userEntered user).own
    rw [own_userEntered, own_userEntered, hown, hknows]
  | userExited gone id =>
    change (lobby.userExited gone id).own = (lobby'.userExited gone id).own
    rw [own_userExited, own_userExited, hsession, huser, hself]
  | _ => cases h

end Own

theorem Consistent.knows_apply (h : lobby.Consistent) {notification : Notification}
    {session : SessionId} (hsubject : notification.subject? = some session) (id : RoomId) :
    (notification.apply lobby).knows id = lobby.knows id := by
  rw [← knows_seating, ← knows_seating,
    h.seating_apply (Notification.wellSeated_of_subject? hsubject),
    Seating.after_eq_move _ _ hsubject]
  rfl

-- Only one of the two notifications can be about the own session.
theorem own_apply_comm_of_ne (h : lobby.Consistent) {first second : Notification}
    {a b : SessionId} (ha : first.subject? = some a) (hb : second.subject? = some b)
    (hother : lobby.selfSession ≠ some a) :
    (second.apply (first.apply lobby)).own = (first.apply (second.apply lobby)).own := by
  have hother' : (second.apply lobby).selfSession ≠ some a := by
    rwa [selfSession_apply hb]
  rw [own_apply_of_ne ha hother', own_apply_congr hb (own_apply_of_ne ha hother) (h.knows_apply ha)]

theorem own_apply_comm (h : lobby.Consistent) {first second : Notification}
    {a b : SessionId} (ha : first.subject? = some a) (hb : second.subject? = some b)
    (hab : a ≠ b) :
    (second.apply (first.apply lobby)).own = (first.apply (second.apply lobby)).own := by
  by_cases hself : lobby.selfSession = some a
  · refine (own_apply_comm_of_ne h hb ha ?_).symm
    rw [hself]
    exact fun hsame => hab (Option.some.inj hsame)
  · exact own_apply_comm_of_ne h ha hb hself

/-! ## Both orders -/

theorem Consistent.seating_apply_comm (h : lobby.Consistent) {first second : Notification}
    {a b : SessionId} (ha : first.subject? = some a) (hb : second.subject? = some b)
    (hab : a ≠ b) :
    (second.apply (first.apply lobby)).seating = (first.apply (second.apply lobby)).seating := by
  have hfirst := Notification.wellSeated_of_subject? ha
  have hsecond := Notification.wellSeated_of_subject? hb
  rw [(h.told hfirst).seating_apply hsecond, (h.told hsecond).seating_apply hfirst,
    h.seating_apply hfirst, h.seating_apply hsecond, selfSession_apply ha, selfSession_apply hb]
  exact lobby.seating.after_comm lobby.selfSession ha hb hab

/-- **What is told of two users can be told in either order.**  Whether they enter, leave or change,
whether the rooms are known, and even if one of them is the own user, the rooms, the index, the own
session and the own user come out the same. -/
theorem ReachableBy.users_commute
    (h : lobby.ReachableBy fun _ notification => notification.WellSeated)
    {first second : Notification} {a b : SessionId} (ha : first.subject? = some a)
    (hb : second.subject? = some b) (hab : a ≠ b) :
    (second.apply (first.apply lobby)).rooms = (first.apply (second.apply lobby)).rooms ∧
    (second.apply (first.apply lobby)).memberships =
      (first.apply (second.apply lobby)).memberships ∧
    (second.apply (first.apply lobby)).selfSession =
      (first.apply (second.apply lobby)).selfSession ∧
    (second.apply (first.apply lobby)).selfUser = (first.apply (second.apply lobby)).selfUser := by
  have hconsistent : lobby.Consistent := h.consistent fun _ _ hseated => hseated
  have hfirst := Notification.wellSeated_of_subject? ha
  have hsecond := Notification.wellSeated_of_subject? hb
  have honeWay := (hconsistent.told hfirst).told hsecond
  have hotherWay := (hconsistent.told hsecond).told hfirst
  obtain ⟨hrooms, hindex⟩ :=
    honeWay.eq_of_seating_eq hotherWay (hconsistent.seating_apply_comm ha hb hab)
  obtain ⟨hsession, huser⟩ := Prod.mk.inj (own_apply_comm hconsistent ha hb hab)
  exact ⟨hrooms, hindex, hsession, huser⟩

/-- The own session enters a room, and somebody else moves there from another one. -/
theorem users_commute_company :
    company.ReachableBy (fun _ notification => notification.WellSeated) ∧
      ((company.userEntered (.inRoom ⟨5⟩ ⟨2⟩ 0)).userUpdated (.inRoom ⟨6⟩ ⟨2⟩ 1)).rooms =
        ((company.userUpdated (.inRoom ⟨6⟩ ⟨2⟩ 1)).userEntered (.inRoom ⟨5⟩ ⟨2⟩ 0)).rooms ∧
      ((company.userUpdated (.inRoom ⟨6⟩ ⟨2⟩ 1)).userEntered (.inRoom ⟨5⟩ ⟨2⟩ 0)).selfUser =
        .inRoom ⟨5⟩ ⟨2⟩ 0 := by
  have hreachable := company_reachable.reachableBy
  have hentry : (Notification.userEntered (.inRoom ⟨5⟩ ⟨2⟩ 0)).subject? = some ⟨5⟩ := rfl
  have hupdate : (Notification.userUpdated (.inRoom ⟨6⟩ ⟨2⟩ 1)).subject? = some ⟨6⟩ := rfl
  have hcommute := ReachableBy.users_commute hreachable hentry hupdate (by decide)
  exact ⟨hreachable, hcommute.1, by decide +kernel⟩

end Lobby

end Multiplayer
