import Multiplayer.Proofs.Stream.Grammar
import Multiplayer.Proofs.World.News
import Multiplayer.Proofs.World.Timeless

/-!
# Announcements

An announcement is a unit of the stream that changes the lobby: the session is accepted, or there
is news.

* `Announcement.feed_all` and `feed_part`: what the assembler makes of announcements, and of the
  beginning of some.
* `Announcement.tell`: what an announcement should do to a lobby; `timeless_foldl_tell` says that
  it does not matter when.
-/

namespace Multiplayer

/-- A unit that tells something, with any flags in its header. -/
inductive Announcement where
  | established (header : Header 3) (keepAlive : UInt8) (session : SessionId)
  | notification (header : Header 8) (news : News) (fits : 2 + news.body.length < UInt16.size)

namespace Announcement

/-! ## On the wire -/

def bytes : Announcement → Bytes
  | .established header keepAlive session => header.1 :: keepAlive :: Bytes.ofUInt16 session.value
  | .notification header news _ =>
    header.1 :: Bytes.ofNat 2 (2 + news.body.length) ++ Bytes.ofUInt16 news.event.code ++ news.body

def event : Announcement → StreamEvent
  | .established _ keepAlive session => .established keepAlive session
  | .notification header news _ => .frame ⟨header.1, news.event.code, news.body⟩

theorem exists_digits (n : UInt16) :
    ∃ high low, Bytes.ofUInt16 n = [high, low] ∧ UInt16.ofNat (Bytes.toNat [high, low]) = n := by
  obtain ⟨high, low, hdigits, hvalue⟩ := StreamUnit.exists_lengthDigits n.toNat_lt
  exact ⟨high, low, hdigits, by rw [hvalue, UInt16.ofNat_toNat]⟩

theorem exists_unit (a : Announcement) :
    ∃ u : StreamUnit, u.bytes = a.bytes ∧ u.events = [a.event] ∧ u.isOther = false := by
  cases a with
  | established header keepAlive session =>
    obtain ⟨high, low, hdigits, hvalue⟩ := exists_digits session.value
    refine ⟨.established header keepAlive high low, ?_, ?_, rfl⟩
    · simp [StreamUnit.bytes, bytes, hdigits]
    · simp [StreamUnit.events, event, hvalue]
  | notification header news fits =>
    obtain ⟨high, low, hdigits, hvalue⟩ := exists_digits news.event.code
    have hlength : (high :: low :: news.body).length = 2 + news.body.length := by
      simp only [List.length_cons]
      omega
    refine ⟨.data header.1 (.inl header.2) (high :: low :: news.body) (hlength ▸ fits), ?_, ?_, rfl⟩
    · rw [StreamUnit.bytes, hlength, bytes, hdigits]
      simp
    · simp [StreamUnit.events, event, hvalue]

/-- Announcements give their events, and leave nothing behind. -/
theorem feed_all (announcements : List Announcement) :
    Assembler.empty.feed (announcements.flatMap bytes) = (announcements.map event, .empty) := by
  induction announcements with
  | nil => rfl
  | cons a announcements ih =>
    obtain ⟨u, hbytes, hevents, hother⟩ := a.exists_unit
    have hunit : Assembler.empty.feed a.bytes = ([a.event], .empty) := by
      have hfeed := Assembler.feed_unit 0 u
      rw [hbytes, hevents, hother] at hfeed
      exact hfeed
    rw [List.flatMap_cons, Assembler.feed_append, hunit, ih, List.map_cons]
    rfl

/-- The beginning of some announcements gives the events of those that are complete. -/
theorem feed_part {announcements : List Announcement} {part : Bytes}
    (h : part <+: announcements.flatMap bytes) :
    ∃ told, told <+: announcements ∧ (Assembler.empty.feed part).1 = told.map event := by
  obtain ⟨missing, hall⟩ := h
  have hevents := congrArg Prod.fst (feed_all announcements)
  rw [← hall, Assembler.feed_append] at hevents
  have hpart : (Assembler.empty.feed part).1 <+: announcements.map event := ⟨_, hevents⟩
  rw [List.prefix_iff_eq_take] at hpart
  exact ⟨announcements.take _, List.take_prefix .., by rw [List.map_take, ← hpart]⟩

/-! ## In a lobby -/

/-- What an announcement that is heard at some time should do to a lobby. -/
def tell (now : Instant) (lobby : Lobby) : Announcement → Lobby
  | .established _ _ session => lobby.identify session
  | .notification _ news _ => (news.notification now).apply (lobby.beginEvent news.event.code)

theorem timeless_foldl_insert (id : RoomId) (seats : List (SessionId × UInt16)) (room : Room) :
    (seats.foldl (fun room (session, index) => room.insert (.inRoom session id index))
        room).timeless =
      seats.foldl (fun room (session, index) => room.insert (.inRoom session id index))
        room.timeless := by
  induction seats generalizing room with
  | nil => rfl
  | cons seat seats ih => exact ih (room.insert (.inRoom seat.1 id seat.2))

theorem timeless_room (snapshot : Snapshot) (now now' : Instant) :
    (snapshot.room now).timeless = (snapshot.room now').timeless := by
  rw [Snapshot.room, Snapshot.room, timeless_foldl_insert, timeless_foldl_insert]
  rfl

theorem timeless_notification (news : News) (now now' : Instant) :
    (news.notification now).timeless = (news.notification now').timeless := by
  cases news with
  | roomCreated snapshot =>
    exact congrArg Notification.roomCreated (timeless_room snapshot now now')
  | roomUpdated snapshot =>
    exact congrArg Notification.roomUpdated (timeless_room snapshot now now')
  | _ => rfl

/-- Lobbies that differ in times only do so after an announcement, whenever each has heard it. -/
theorem timeless_tell {lobby lobby' : Lobby} (h : lobby.timeless = lobby'.timeless)
    (now now' : Instant) (a : Announcement) :
    (a.tell now lobby).timeless = (a.tell now' lobby').timeless := by
  cases a with
  | established header keepAlive session =>
    change (lobby.identify session).timeless = (lobby'.identify session).timeless
    rw [Lobby.timeless_identify, Lobby.timeless_identify, h]
  | notification header news fits =>
    have hbegun (lobby : Lobby) : (lobby.beginEvent news.event.code).timeless =
        lobby.timeless.beginEvent news.event.code := rfl
    change ((news.notification now).apply (lobby.beginEvent news.event.code)).timeless =
      ((news.notification now').apply (lobby'.beginEvent news.event.code)).timeless
    rw [Notification.timeless_apply, Notification.timeless_apply, hbegun, hbegun, h,
      timeless_notification news now now']

theorem timeless_foldl_tell (announcements : List Announcement) {lobby lobby' : Lobby}
    (h : lobby.timeless = lobby'.timeless) (now now' : Instant) :
    (announcements.foldl (tell now) lobby).timeless =
      (announcements.foldl (tell now') lobby').timeless := by
  induction announcements generalizing lobby lobby' with
  | nil => exact h
  | cons a announcements ih => exact ih (timeless_tell h now now' a)

end Announcement

end Multiplayer
