import Multiplayer.Proofs.Client.Hearing

/-!
# The lobby follows what is announced

A server announces things one after another, and the bytes of that reach a client in any pieces
while it ticks.  Once everything has arrived, the lobby of the client is what the announcements say.

* `Move` is a piece that arrives, or a tick.
* `Client.Follows` is the invariant of any moves; `Follows.make` says that moves keep it.
* `replicates` is the result.
-/

namespace Multiplayer

open Assembler (feed_append)

variable {δ α : Type}

/-- What happens to a client: some bytes are pushed by the peer, or it ticks. -/
inductive Move where
  | push (piece : Bytes)
  | tick (now : Instant) (clock : Clock)

namespace Move

def make (c : Client Pipe δ α) : Move → Client Pipe δ α
  | .push piece => { c with transport := c.transport.push piece }
  | .tick now clock => ((Client.tick now clock).run.run c).2

/-- The bytes that a move brings. -/
def piece : Move → Bytes
  | .push piece => piece
  | .tick .. => []

end Move

namespace Announcement

theorem event_not_teardown (a : Announcement) : ¬ a.event.isTeardown := by
  cases a <;> exact Bool.false_ne_true

/-- After some announcements were told, more bytes of the whole give the events of some more. -/
theorem feed_further {announcements told : List Announcement} {taken more : Bytes}
    {a : Assembler} (hall : taken ++ more <+: announcements.flatMap bytes)
    (htold : told <+: announcements) (hfeed : Assembler.empty.feed taken = (told.map event, a)) :
    ∃ new, told ++ new <+: announcements ∧ (a.feed more).1 = new.map event := by
  obtain ⟨told', htold', hevents⟩ := feed_part hall
  rw [feed_append, hfeed] at hevents
  have hlength : told.length ≤ told'.length := by
    have := congrArg List.length hevents
    simp only [List.length_append, List.length_map] at this
    omega
  obtain ⟨new, rfl⟩ := List.prefix_of_prefix_length_le htold htold' hlength
  rw [List.map_append, List.append_cancel_left_eq] at hevents
  exact ⟨new, htold', hevents⟩

end Announcement

namespace Client

/-- Some announcements are on their way, of which some bytes have not been pushed yet.  The client
has told its lobby of those that were complete in the bytes that it has taken. -/
structure Follows (announcements : List Announcement) (toCome : Bytes) (c : Client Pipe δ α) :
    Prop where
  limit : c.transport.readLimit ≠ some 0
  connected : c.session.isConnected
  table : ∃ t, c.table = some t ∧ t.Tells
  progress : ∃ taken told,
    announcements.flatMap Announcement.bytes = taken ++ c.transport.inbound ++ toCome ∧
      told <+: announcements ∧
      Assembler.empty.feed taken = (told.map Announcement.event, c.assembler) ∧
      c.state.lobby.timeless = (told.foldl (Announcement.tell ⟨0⟩) .empty).timeless

namespace Follows

variable {announcements : List Announcement} {toCome : Bytes} {c : Client Pipe δ α}

theorem of_fresh [Directory δ] (h : c.Fresh) (hempty : c.transport.inbound = [])
    (hlimit : c.transport.readLimit ≠ some 0) :
    c.Follows announcements (announcements.flatMap Announcement.bytes) := by
  obtain ⟨hunheard, hconnected, htable⟩ := h.hears
  refine ⟨hlimit, hconnected, htable, [], [], ?_, List.nil_prefix, ?_, ?_⟩
  · rw [hempty]
    rfl
  · rw [hunheard.assembler]
    rfl
  · rw [hunheard.lobby]
    rfl

theorem push {piece : Bytes} (h : c.Follows announcements (piece ++ toCome)) :
    ((Move.push piece).make c).Follows announcements toCome := by
  obtain ⟨taken, told, hall, htold, hfeed, hlobby⟩ := h.progress
  refine ⟨h.limit, h.connected, h.table, taken, told, ?_, htold, hfeed, hlobby⟩
  rw [hall]
  simp [Move.make, Pipe.push]

/-- A tick takes everything that is there. -/
theorem tick (h : c.Follows announcements toCome) (now : Instant) (clock : Clock) :
    ((Move.tick now clock).make c).Follows announcements toCome ∧
      ((Move.tick now clock).make c).transport.inbound = [] := by
  obtain ⟨t, htable, htells⟩ := h.table
  obtain ⟨taken, told, hall, htold, hfeed, hlobby⟩ := h.progress
  obtain ⟨new, hnew, hevents⟩ := Announcement.feed_further ⟨toCome, hall.symm⟩ htold hfeed
  have hwaiting : c.Waiting := by
    have hpartial := Assembler.partial_feed (a := .empty) trivial taken
    rwa [hfeed] at hpartial
  have hgoing : ∀ event ∈ new.map Announcement.event, ¬ event.isTeardown := by
    intro event hevent
    obtain ⟨a, -, rfl⟩ := List.mem_map.1 hevent
    exact a.event_not_teardown
  have hsent := tick_of_going now clock hwaiting h.connected h.limit (hevents ▸ hgoing)
  simp only [hevents] at hsent
  let before := c.updated.fed (c.assembler.feed c.transport.inbound).2 []
  let handled := handleAll clock (new.map Announcement.event) before
  -- What follows does not depend on what the tick sends.
  obtain ⟨heartbeat, failedSends, outbound, attempts, hend⟩ := hsent
  have hmade : (Move.tick now clock).make c = { handled with
      session := { handled.session with heartbeat, failedSends }
      transport := { handled.transport with outbound, attempts } } := hend
  obtain ⟨hassembler, htransport⟩ := parts_handleAll hgoing clock before
  obtain ⟨hlobbies, htables⟩ := lobby_handleAll htells clock new (c := before) htable
  have hconnected : handled.session.isConnected := by
    rw [isConnected_handleAll, Bool.and_eq_true, List.all_eq_true]
    exact ⟨h.connected, fun event hevent => by simpa using hgoing event hevent⟩
  have hinbound : handled.transport.inbound = [] := congrArg Pipe.inbound htransport
  rw [hmade]
  refine ⟨⟨?_, hconnected, ⟨t, htables, htells⟩, taken ++ c.transport.inbound, told ++ new, ?_,
    hnew, ?_, ?_⟩, hinbound⟩
  · change handled.transport.readLimit ≠ some 0
    rw [htransport]
    exact h.limit
  · change _ = taken ++ c.transport.inbound ++ handled.transport.inbound ++ toCome
    rw [hinbound, List.append_nil]
    exact hall
  · rw [feed_append, hfeed, hevents, List.map_append]
    exact congrArg (Prod.mk _) hassembler.symm
  · rw [List.foldl_append]
    change handled.state.lobby.timeless = _
    rw [hlobbies]
    exact Announcement.timeless_foldl_tell new hlobby clock.monotonic ⟨0⟩

theorem make {move : Move} (h : c.Follows announcements (move.piece ++ toCome)) :
    (move.make c).Follows announcements toCome := by
  cases move with
  | push piece => exact h.push
  | tick now clock => exact (h.tick now clock).1

theorem foldl_make {moves : List Move}
    (h : c.Follows announcements (moves.flatMap Move.piece ++ toCome)) :
    (moves.foldl Move.make c).Follows announcements toCome := by
  induction moves generalizing c with
  | nil => exact h
  | cons move moves ih =>
    rw [List.flatMap_cons, List.append_assoc] at h
    exact ih h.make

/-- When everything has been pushed and taken, the lobby has been told of everything. -/
theorem all_told (h : c.Follows announcements []) (hempty : c.transport.inbound = []) :
    c.state.lobby.timeless =
      (announcements.foldl (Announcement.tell ⟨0⟩) .empty).timeless := by
  obtain ⟨taken, told, hall, htold, hfeed, hlobby⟩ := h.progress
  rw [hempty, List.append_nil, List.append_nil] at hall
  have hevents := congrArg Prod.fst (Announcement.feed_all announcements)
  rw [hall, hfeed] at hevents
  have hlength : told.length = announcements.length := by
    simpa using congrArg List.length hevents
  rw [hlobby, htold.eq_of_length hlength]

end Follows

/-- **The lobby follows what is announced.**  Announcements reach a client in any pieces, with any
ticks between them.  Once nothing is left, the lobby is what an empty one becomes when it is told of
each once and in order, up to the times at which rooms were first heard of. -/
theorem replicates [Directory δ] {c : Client Pipe δ α} (hfresh : c.Fresh)
    (hempty : c.transport.inbound = []) (hlimit : c.transport.readLimit ≠ some 0)
    {announcements : List Announcement} {moves : List Move}
    (hpushed : moves.flatMap Move.piece = announcements.flatMap Announcement.bytes)
    (epoch : Instant) :
    let c' := moves.foldl Move.make c
    (∀ now clock, ((Move.tick now clock).make c').transport.inbound = []) ∧
      (c'.transport.inbound = [] → c'.state.lobby.timeless =
        (announcements.foldl (Announcement.tell epoch) .empty).timeless) := by
  intro c'
  have hfollows : c'.Follows announcements [] := by
    refine Follows.foldl_make ?_
    rw [hpushed, List.append_nil]
    exact .of_fresh hfresh hempty hlimit
  refine ⟨fun now clock => (hfollows.tick now clock).2, ?_⟩
  intro hall
  rw [hfollows.all_told hall]
  exact Announcement.timeless_foldl_tell announcements rfl ⟨0⟩ epoch

/-- A session is accepted, two users are in a room, and one of them leaves it. -/
def visit : List Announcement :=
  [.established ⟨0x03, rfl⟩ 30 ⟨7⟩,
    .notification ⟨0x18, rfl⟩
      (.roomCreated ⟨⟨1⟩, .normal, 4, ⟨7⟩, [(⟨7⟩, 0), (⟨9⟩, 1)], true, by decide⟩) (by decide),
    .notification ⟨0x08, rfl⟩ (.userExited ⟨9⟩ ⟨1⟩) (by decide)]

def visitMoves : List Move :=
  let stream := visit.flatMap Announcement.bytes
  [.push (stream.take 6), .tick ⟨1⟩ ⟨⟨1⟩, default⟩, .push (stream.drop 6),
    .tick ⟨2⟩ ⟨⟨2⟩, default⟩]

theorem replicates_visit :
    let c := visitMoves.foldl Move.make started
    started.Fresh ∧ started.transport.inbound = [] ∧ started.transport.readLimit ≠ some 0 ∧
      visitMoves.flatMap Move.piece = visit.flatMap Announcement.bytes ∧
      c.transport.inbound = [] ∧
      c.state.lobby.timeless = (visit.foldl (Announcement.tell ⟨0⟩) .empty).timeless := by
  intro c
  have hquiet : (Call.addHandler 0x0102 fun frame =>
      modify fun s : HandlerState (List UInt16) => { s with app := frame.code :: s.app }).Quiet :=
    fun _ _ _ h => h
  have hprepared : noting.Prepared := .call (.build ..) hquiet (by decide +kernel)
  have hstarted : ((start ⟨0⟩).run.run noting).1.toBool = true := by decide +kernel
  have hok : ((start ⟨0⟩).run.run noting).1 = .ok () := by
    cases hresult : ((start ⟨0⟩).run.run noting).1 with
    | error e => simp [hresult, Except.toBool] at hstarted
    | ok _ => rfl
  have hfresh : started.Fresh := .start hprepared (Prod.ext hok rfl)
  have hempty : started.transport.inbound = [] := by decide +kernel
  have hlimit : started.transport.readLimit ≠ some 0 := by decide +kernel
  have hpushed : visitMoves.flatMap Move.piece = visit.flatMap Announcement.bytes := by
    decide +kernel
  have hleft : c.transport.inbound = [] := by
    dsimp only [c]
    decide +kernel
  exact ⟨hfresh, hempty, hlimit, hpushed, hleft,
    (replicates hfresh hempty hlimit hpushed ⟨0⟩).2 hleft⟩

end Client

end Multiplayer
