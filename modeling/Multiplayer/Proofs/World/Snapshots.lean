import Mathlib.Data.List.Induction
import Multiplayer.Proofs.World.News
import Multiplayer.Proofs.World.Seating

/-!
# What a client reads as a snapshot of a room

A room is read from a head and pairs of session and seat, up to the closing pair or the end of the
payload, and from nothing else.  What is read is the room that the head describes, and of several
pairs with one session the last one counts.

* `Room.goesOver_of_run_seatsDecoder`, `Room.exists_snapshot_of_run`: what was read was written so.
* `Room.lastSeat?` and `Snapshot.Describes` say which room a snapshot describes, pair by pair.
* `Snapshot.describes_iff`: that is the room that is read.
* `Snapshot.read_exactly` is the result.
-/

namespace Multiplayer

/-! ## What a room is read from -/

namespace Room

/-- What the members are read from: pairs that do not close the list, and then its end. -/
theorem goesOver_of_run_seatsDecoder {seats : List (SessionId × UInt16)} {c c' : Cursor}
    (h : seatsDecoder.run.run c = (.ok seats, c')) : endOfMembers ∉ seats ∧
      ∃ closed, c.GoesOver (seats.flatMap seatBytes ++ seatsEnd closed) c' ∧
        (closed = false → c'.rest = []) := by
  induction hlength : c.rest.length using Nat.strongRecOn generalizing c seats with
  | _ length ih =>
    rw [run_seatsDecoder] at h
    split at h
    · rename_i hend
      cases h
      exact ⟨List.not_mem_nil, false, Cursor.goesOver_nil_iff.2 rfl,
        fun _ => List.isEmpty_iff.1 hend⟩
    rcases hseat : seatDecoder.run.run c with ⟨_ | seat, c₁⟩
    · rw [hseat] at h
      cases h
    have hover := exact_seatDecoder.1 hseat
    rw [hseat] at h
    dsimp only at h
    split at h
    · rename_i hclosing
      cases h
      rw [hclosing] at hover
      exact ⟨List.not_mem_nil, true, hover, nofun⟩
    · rename_i hopen
      rcases hothers : seatsDecoder.run.run c₁ with ⟨_ | others, c₂⟩
      · rw [hothers] at h
        cases h
      rw [hothers] at h
      cases h
      have hshorter := length_rest_of_seatDecoder hseat
      obtain ⟨hmembers, closed, hrest, hend⟩ := ih _ (hlength ▸ hshorter) hothers rfl
      refine ⟨List.not_mem_cons_of_ne_of_not_mem (Ne.symm hopen) hmembers, closed, ?_, hend⟩
      rw [List.flatMap_cons, List.append_assoc]
      exact hover.append hrest

/-- Whatever is read as a room was written as a snapshot of it. -/
theorem exists_snapshot_of_run {createdAt : Instant} {room : Room} {c c' : Cursor}
    (h : (decoder createdAt).run.run c = (.ok room, c')) :
    ∃ snapshot : Snapshot, c.GoesOver snapshot.bytes c' ∧
      (snapshot.closed = false → c'.rest = []) ∧ room = snapshot.room createdAt := by
  obtain ⟨id, c₁, hid, h⟩ := Attempt.run_bind_ok h
  obtain ⟨kind, c₂, hkind, h⟩ := Attempt.run_bind_ok h
  obtain ⟨capacity, c₃, hcapacity, h⟩ := Attempt.run_bind_ok h
  obtain ⟨owner, c₄, howner, h⟩ := Attempt.run_bind_ok h
  obtain ⟨seats, c₅, hseats, h⟩ := Attempt.run_bind_ok h
  cases h
  obtain ⟨hopen, closed, hrest, hend⟩ := goesOver_of_run_seatsDecoder hseats
  refine ⟨⟨⟨id⟩, kind, capacity, ⟨owner⟩, seats, closed, hopen⟩, ?_, hend, rfl⟩
  rw [Snapshot.bytes_eq]
  have hhead := (Decoder.exact_uint16.1 hcapacity).append
    ((Decoder.exact_uint16.1 howner).append hrest)
  exact (Decoder.exact_uint16.1 hid).append ((RoomKind.exact_decoder.1 hkind).append hhead)

end Room

/-! ## What a snapshot describes -/

namespace Room

/-- The seat of a session in its last pair. -/
def lastSeat? (seats : List (SessionId × UInt16)) (session : SessionId) : Option UInt16 :=
  (seats.reverse.find? (·.1 = session)).map Prod.snd

theorem lastSeat?_concat (seats : List (SessionId × UInt16)) (seat : SessionId × UInt16)
    (session : SessionId) : lastSeat? (seats ++ [seat]) session =
      if seat.1 = session then some seat.2 else lastSeat? seats session := by
  rw [lastSeat?, List.reverse_append, List.reverse_singleton, List.singleton_append,
    List.find?_cons]
  by_cases h : seat.1 = session
  · simp [h]
  · simp [h, lastSeat?]

/-- If no session has two pairs, each pair counts. -/
theorem lastSeat?_eq_some_iff {seats : List (SessionId × UInt16)}
    (hdistinct : (seats.map Prod.fst).Nodup) {session : SessionId} {index : UInt16} :
    lastSeat? seats session = some index ↔ (session, index) ∈ seats := by
  induction seats using List.reverseRecOn with
  | nil => simp [lastSeat?]
  | append_singleton seats seat ih =>
    rw [List.map_append, List.map_singleton, List.nodup_append] at hdistinct
    obtain ⟨hseats, -, hnew⟩ := hdistinct
    have hlast : seat.1 ∉ seats.map Prod.fst :=
      fun hmem => hnew _ hmem _ (List.mem_singleton_self seat.1) rfl
    rw [lastSeat?_concat, List.mem_append, List.mem_singleton]
    split
    · rename_i hsession
      subst hsession
      constructor
      · intro h
        exact .inr (congrArg (Prod.mk seat.1) (Option.some.inj h).symm)
      · rintro (hmem | hsame)
        · exact absurd (List.mem_map_of_mem hmem) hlast
        · exact congrArg some (congrArg Prod.snd hsame).symm
    · rename_i hsession
      rw [ih hseats, or_iff_left]
      exact fun hsame => hsession (congrArg Prod.fst hsame).symm

/-- Each pair in turn gives its session a seat. -/
theorem member?_foldl_insert (seats : List (SessionId × UInt16)) (room : Room)
    (session : SessionId) :
    (seats.foldl (fun filled (session, index) => filled.insert (.inRoom session room.id index))
      room).member? session =
      ((lastSeat? seats session).map (.inRoom session room.id)).or (room.member? session) := by
  induction seats using List.reverseRecOn with
  | nil => rfl
  | append_singleton seats seat ih =>
    have hid := congrArg RoomHead.id (head_foldl_insert seats room room.id)
    rw [List.foldl_append, List.foldl_cons, List.foldl_nil, member?_insert, lastSeat?_concat]
    change (if seat.1 = session then _ else _) = _
    by_cases hsession : seat.1 = session
    · subst hsession
      rw [if_pos rfl, if_pos rfl]
      exact congrArg (fun id => some (User.inRoom seat.1 id seat.2)) hid
    · rw [if_neg hsession, if_neg hsession, ih]

end Room

namespace Snapshot

/-- Seven bytes for the head, and four for each pair. -/
theorem length_bytes (snapshot : Snapshot) : snapshot.bytes.length =
    7 + 4 * snapshot.seats.length + if snapshot.closed then 4 else 0 := by
  have hseat (seat : SessionId × UInt16) : (seatBytes seat).length = 4 := by simp [seatBytes]
  have hseats : (snapshot.seats.flatMap seatBytes).length = 4 * snapshot.seats.length := by
    simp only [List.length_flatMap, hseat, List.map_const', List.sum_replicate_nat]
    exact Nat.mul_comm ..
  have hend : (seatsEnd snapshot.closed).length = if snapshot.closed then 4 else 0 := by
    rw [seatsEnd, apply_ite List.length, hseat]
    rfl
  simp only [bytes_eq, List.length_append, Bytes.length_ofUInt16, List.length_singleton, hseats,
    hend]
  omega

/-- The room is open, has the head that was written, and the sessions of the pairs as members, each
with its last seat. -/
structure Describes (snapshot : Snapshot) (createdAt : Instant) (room : Room) : Prop where
  head : room.head = ⟨snapshot.id, snapshot.kind, .unlocked, snapshot.capacity, snapshot.owner,
    createdAt⟩
  member? : ∀ session, room.member? session =
    (Room.lastSeat? snapshot.seats session).map (.inRoom session snapshot.id)

theorem describes_room (snapshot : Snapshot) (createdAt : Instant) :
    snapshot.Describes createdAt (snapshot.room createdAt) where
  head := Room.head_foldl_insert snapshot.seats _ snapshot.id
  member? session := by
    refine (Room.member?_foldl_insert snapshot.seats (.empty snapshot.id snapshot.kind
      snapshot.capacity snapshot.owner createdAt) session).trans ?_
    have hnobody : (Room.empty snapshot.id snapshot.kind snapshot.capacity snapshot.owner
        createdAt).member? session = none := Std.ExtTreeMap.getElem?_empty
    rw [hnobody, Option.or_none]
    rfl

/-- A snapshot describes one room. -/
theorem describes_iff (snapshot : Snapshot) (createdAt : Instant) (room : Room) :
    snapshot.Describes createdAt room ↔ room = snapshot.room createdAt := by
  have hroom := snapshot.describes_room createdAt
  constructor
  · intro h
    exact Room.eq_of_head_eq (h.head.trans hroom.head.symm) fun session =>
      (h.member? session).trans (hroom.member? session).symm
  · rintro rfl
    exact hroom

/-- Without a second pair for a session, its members are the sessions that were written, each with
the seat that was written. -/
theorem Describes.member?_eq_some_iff {snapshot : Snapshot} {createdAt : Instant} {room : Room}
    (h : snapshot.Describes createdAt room) (hdistinct : (snapshot.seats.map Prod.fst).Nodup)
    {session : SessionId} {user : User} : room.member? session = some user ↔
      ∃ index, (session, index) ∈ snapshot.seats ∧ user = .inRoom session snapshot.id index := by
  rw [h.member?, Option.map_eq_some_iff]
  refine exists_congr fun index => ?_
  rw [Room.lastSeat?_eq_some_iff hdistinct]
  exact and_congr_right fun _ => eq_comm

/-- **What is read as a snapshot of a room.**  A room is read exactly from a head and pairs of
session and seat, up to the closing pair or the end of the payload.  The cursor goes over these and
no further, and the room is the one that they describe. -/
theorem read_exactly (createdAt : Instant) :
    (∀ (c c' : Cursor) (room : Room),
      (Room.decoder createdAt).run.run c = (.ok room, c') ↔
        ∃ snapshot : Snapshot, c.GoesOver snapshot.bytes c' ∧
          (snapshot.closed = false → c'.rest = []) ∧ snapshot.Describes createdAt room) ∧
    (∀ snapshot : Snapshot, snapshot.bytes.length =
      7 + 4 * snapshot.seats.length + if snapshot.closed then 4 else 0) ∧
    ∀ (snapshot : Snapshot) (position : Nat) (rest : Bytes),
      (snapshot.closed = false → rest = []) →
      ∃ room : Room, (Room.decoder createdAt).run.run ⟨position, snapshot.bytes ++ rest⟩ =
          (.ok room, ⟨position + snapshot.bytes.length, rest⟩) ∧
        snapshot.Describes createdAt room ∧
        ((snapshot.seats.map Prod.fst).Nodup → ∀ session user,
          room.member? session = some user ↔ ∃ index, (session, index) ∈ snapshot.seats ∧
            user = .inRoom session snapshot.id index) := by
  refine ⟨fun c c' room => ⟨fun h => ?_, ?_⟩, length_bytes,
    fun snapshot position rest hend => ?_⟩
  · obtain ⟨snapshot, hover, hend, hroom⟩ := Room.exists_snapshot_of_run h
    exact ⟨snapshot, hover, hend, (snapshot.describes_iff createdAt room).2 hroom⟩
  · rintro ⟨snapshot, hover, hend, hroom⟩
    rw [(snapshot.describes_iff createdAt room).1 hroom]
    exact snapshot.run_decoder createdAt hover hend
  · have hroom := snapshot.describes_room createdAt
    exact ⟨_, snapshot.run_decoder createdAt ⟨rfl, rfl⟩ hend, hroom,
      fun hdistinct session user => hroom.member?_eq_some_iff hdistinct⟩

/-- Two members, the closing pair, and a byte that is left alone. -/
theorem read_exactly_pair :
    let snapshot : Snapshot := ⟨⟨1⟩, .matchmade, 4, ⟨9⟩, [(⟨9⟩, 1), (⟨3⟩, 0)], true, by decide⟩
    (snapshot.seats.map Prod.fst).Nodup ∧
      snapshot.bytes = [0, 1, 1, 0, 4, 0, 9, 0, 9, 0, 1, 0, 3, 0, 0, 255, 255, 255, 255] ∧
      ∃ room, (Room.decoder ⟨0⟩).run.run ⟨0, snapshot.bytes ++ [7]⟩ =
          (.ok room, ⟨snapshot.bytes.length, [7]⟩) ∧
        ∀ session user, room.member? session = some user ↔
          ∃ index, (session, index) ∈ snapshot.seats ∧ user = .inRoom session ⟨1⟩ index := by
  intro snapshot
  have hdistinct : (snapshot.seats.map Prod.fst).Nodup := by decide
  obtain ⟨room, hrun, -, hmembers⟩ := (read_exactly ⟨0⟩).2.2 snapshot 0 [7] nofun
  rw [Nat.zero_add] at hrun
  exact ⟨hdistinct, by decide +kernel, room, hrun, hmembers hdistinct⟩

end Snapshot

end Multiplayer
