import Multiplayer.Proofs.Chronicle
import Multiplayer.Proofs.Transport.Log

/-!
# The queues of a pipe

A pipe has a queue for each direction.  Whatever is done at its two ends, and however limits,
closing and hanging up come in between, what goes into a queue comes out of it in the same order,
every byte once.

* `Deed.given`, `Deed.pushed`, `Deed.collected`, `Deed.taken`: what a deed shows of the two queues.
* `Accounts`: what a deed shows of a pipe is all that has changed, and `accounts_perform` says so of
  every move.
* `Follows`: what the past says about a pipe.  `Fits`: how the next deed turns out after it.
* `lossless` is the result: what came out of each queue and what is still in it is what went in.
-/

namespace Multiplayer.Pipe

/-! ## Moves and deeds -/

/-- Something done to a pipe, from one of its ends or to its limits. -/
inductive Move where
  | push (bytes : Bytes)
  | takeOutbound
  | hangUp
  | limitReads (limit : Option Nat)
  | limitSends (limit : Option Nat)
  | connect (host : String) (port : UInt16)
  | update
  | send (data : Bytes)
  /-- Receives into the slots of a buffer. -/
  | receive (buffer : Bytes)
  | close

/-- A move as it has turned out. -/
inductive Deed where
  | pushed (bytes : Bytes)
  | tookOutbound (bytes : Bytes)
  | hungUp
  | readsLimited (limit : Option Nat)
  | sendsLimited (limit : Option Nat)
  | connected (host : String) (port : UInt16) (result : Except TransportError Unit)
  | updated (result : Except TransportError Unit)
  | sent (data : Bytes) (result : Except TransportError Nat)
  /-- The result is how many slots were filled, and `filled` is what is in all of them now. -/
  | received (buffer : Bytes) (result : Except TransportError Nat) (filled : Bytes)
  | closed (result : Except TransportError Unit)
deriving DecidableEq

namespace Deed

def move : Deed → Move
  | pushed bytes => .push bytes
  | tookOutbound _ => .takeOutbound
  | hungUp => .hangUp
  | readsLimited limit => .limitReads limit
  | sendsLimited limit => .limitSends limit
  | connected host port _ => .connect host port
  | updated _ => .update
  | sent data _ => .send data
  | received buffer _ _ => .receive buffer
  | closed _ => .close

/-- The bytes that were put into the inbound queue. -/
def arriving : Deed → Bytes
  | pushed bytes => bytes
  | _ => []

/-- The bytes that were received: what is in the slots that are said to be filled. -/
def given : Deed → Bytes
  | received _ (.ok n) filled => filled.take n
  | _ => []

/-- The bytes that are said to be taken by a send, from the front of what it was offered. -/
def taken : Deed → Bytes
  | sent data (.ok n) => data.take n
  | _ => []

/-- The bytes that the other end has taken out of the outbound queue. -/
def collected : Deed → Bytes
  | tookOutbound bytes => bytes
  | _ => []

/-- Whether the pipe is closed from here on, if the deed is about that. -/
def closes? : Deed → Option Bool
  | connected .. => some false
  | closed _ => some true
  | _ => none

/-- Whether the other end has hung up. -/
def hangsUp : Deed → Bool
  | hungUp => true
  | _ => false

/-- The limit for reads from here on, if there is a new one. -/
def readLimit? : Deed → Option (Option Nat)
  | readsLimited limit => some limit
  | _ => none

def acceptLimit? : Deed → Option (Option Nat)
  | sendsLimited limit => some limit
  | _ => none

end Deed

/-- Copies bytes into the slots of a buffer, one by one, until the slots or the bytes run out. -/
def fill : (buffer bytes : Bytes) → Bytes
  | _ :: buffer, byte :: bytes => byte :: fill buffer bytes
  | buffer, _ => buffer

/-- Does something to a pipe. -/
def perform (pipe : Pipe) : Move → Deed × Pipe
  | .push bytes => (.pushed bytes, pipe.push bytes)
  | .takeOutbound => (.tookOutbound pipe.takeOutbound.1, pipe.takeOutbound.2)
  | .hangUp => (.hungUp, pipe.hangUp)
  | .limitReads limit => (.readsLimited limit, { pipe with readLimit := limit })
  | .limitSends limit => (.sendsLimited limit, { pipe with acceptLimit := limit })
  | .connect host port =>
    let run := (Transport.connect host port).run.run pipe
    (.connected host port run.1, run.2)
  | .update =>
    let run := Transport.update.run.run pipe
    (.updated run.1, run.2)
  | .send data =>
    let run := (Transport.send data).run.run pipe
    (.sent data run.1, run.2)
  | .receive buffer =>
    match (Transport.receive buffer.length).run.run pipe with
    | (.ok bytes, pipe) => (.received buffer (.ok bytes.length) (fill buffer bytes), pipe)
    | (.error e, pipe) => (.received buffer (.error e) buffer, pipe)
  | .close =>
    let run := Transport.close.run.run pipe
    (.closed run.1, run.2)

theorem move_perform (pipe : Pipe) (move : Move) : (pipe.perform move).1.move = move := by
  cases move with
  | receive buffer =>
    rw [perform]
    split <;> rfl
  | _ => rfl

/-! ## Single moves -/

/-- The slots behind the bytes are left as they were. -/
theorem fill_eq {buffer bytes : Bytes} (h : bytes.length ≤ buffer.length) :
    fill buffer bytes = bytes ++ buffer.drop bytes.length := by
  induction buffer generalizing bytes with
  | nil =>
    rw [List.length_nil, Nat.le_zero, List.length_eq_zero_iff] at h
    subst h
    rfl
  | cons slot buffer ih =>
    cases bytes with
    | nil => rfl
    | cons byte bytes => exact congrArg _ (ih (Nat.le_of_succ_le_succ h))

/-- A send fails if the pipe is closed.  Otherwise it takes as much from the front as is allowed. -/
theorem perform_send (pipe : Pipe) (data : Bytes) :
    let n := limited pipe.acceptLimit data.length
    pipe.perform (.send data) =
      if pipe.closed then (.sent data (.error .notConnected), pipe)
      else (.sent data (.ok n), { pipe with
        attempts := pipe.attempts + 1
        outbound := (data.take n).reverseAux pipe.outbound }) := by
  intro n
  have hrun : (Transport.send data).run.run pipe = _ := run_send data pipe
  have htaken : upTo pipe.acceptLimit data = data.take n := by
    cases hlimit : pipe.acceptLimit with
    | none => simp [upTo, n, hlimit, limited]
    | some limit => simp [upTo, n, hlimit, limited, List.take_eq_take_min]
  have hlength : (data.take n).length = n := by
    rw [List.length_take, Nat.min_eq_left (limited_le _ _)]
  rw [htaken, hlength] at hrun
  rw [perform, hrun]
  split <;> rfl

theorem limited_min (limit : Option Nat) (wanted there : Nat) :
    limited limit (min wanted there) = min (limited limit wanted) there := by
  cases limit with
  | none => rfl
  | some limit => exact (Nat.min_assoc ..).symm

/-- A receive fails if nothing is left from a peer that has hung up.  Otherwise it fills the first
slots with what it takes from the front of the queue. -/
theorem perform_receive (pipe : Pipe) (buffer : Bytes) :
    let n := limited pipe.readLimit (min buffer.length pipe.inbound.length)
    pipe.perform (.receive buffer) =
      if pipe.hungUp ∧ pipe.inbound = [] then
        (.received buffer (.error (.connectionClosed "peer hung up")) buffer, pipe)
      else (.received buffer (.ok n) (pipe.inbound.take n ++ buffer.drop n),
        { pipe with inbound := pipe.inbound.drop n }) := by
  intro n
  by_cases hend : pipe.hungUp ∧ pipe.inbound = []
  · have hrun : (Transport.receive buffer.length).run.run pipe =
        (.error (.connectionClosed "peer hung up"), pipe) :=
      if_pos (by simp [hend])
    rw [perform, hrun, if_pos hend]
  · have hn : n = min (limited pipe.readLimit buffer.length) pipe.inbound.length :=
      limited_min _ _ _
    have hrun : (Transport.receive buffer.length).run.run pipe =
        (.ok (pipe.inbound.take n), { pipe with inbound := pipe.inbound.drop n }) := by
      rw [hn, ← List.take_eq_take_min, ← List.drop_eq_drop_min]
      exact if_neg (by simpa [and_comm] using hend)
    have hlength : (pipe.inbound.take n).length = n := by
      rw [List.length_take, hn, Nat.min_assoc, Nat.min_self]
    have hslots : n ≤ buffer.length := Nat.le_trans (limited_le _ _) (Nat.min_le_left ..)
    rw [perform, hrun, if_neg hend]
    simp only [fill_eq (hlength.symm ▸ hslots), hlength]

/-! ## What deeds account for -/

/-- What a deed shows is all that it has changed of a pipe. -/
structure Accounts (pipe : Pipe) (deed : Deed) (pipe' : Pipe) : Prop where
  inbound : deed.given ++ pipe'.inbound = pipe.inbound ++ deed.arriving
  outbound : deed.collected ++ pipe'.takeOutbound.1 = pipe.takeOutbound.1 ++ deed.taken
  readLimit : pipe'.readLimit = deed.readLimit?.getD pipe.readLimit
  acceptLimit : pipe'.acceptLimit = deed.acceptLimit?.getD pipe.acceptLimit
  closed : pipe'.closed = deed.closes?.getD pipe.closed
  hungUp : pipe'.hungUp = (deed.hangsUp || pipe.hungUp)

theorem accounts_perform (pipe : Pipe) (move : Move) :
    Accounts pipe (pipe.perform move).1 (pipe.perform move).2 := by
  cases move with
  | send data =>
    rw [perform_send]
    split
    · exact ⟨(List.append_nil _).symm, (List.append_nil _).symm, rfl, rfl, rfl, rfl⟩
    · refine ⟨(List.append_nil _).symm, ?_, rfl, rfl, rfl, rfl⟩
      simp [takeOutbound, List.reverseAux_eq, Deed.collected, Deed.taken]
  | receive buffer =>
    rw [perform_receive]
    split
    · exact ⟨(List.append_nil _).symm, (List.append_nil _).symm, rfl, rfl, rfl, rfl⟩
    · refine ⟨?_, (List.append_nil _).symm, rfl, rfl, rfl, rfl⟩
      -- What is said to be filled is just what was taken from the queue.
      have hthere : limited pipe.readLimit (min buffer.length pipe.inbound.length) ≤
          pipe.inbound.length := Nat.le_trans (limited_le _ _) (Nat.min_le_right ..)
      have hlength := List.length_take_of_le hthere
      rw [Deed.given, List.take_left' hlength, List.take_append_drop]
      exact (List.append_nil _).symm
  | push bytes => exact ⟨rfl, (List.append_nil _).symm, rfl, rfl, rfl, rfl⟩
  | takeOutbound => exact ⟨(List.append_nil _).symm, rfl, rfl, rfl, rfl, rfl⟩
  | hangUp | limitReads | limitSends | connect | update | close =>
    exact ⟨(List.append_nil _).symm, (List.append_nil _).symm, rfl, rfl, rfl, rfl⟩

/-! ## What the past says -/

/-- What went into a queue and has not come out is in it, and of everything else the last word
counts. -/
structure Follows (past : List Deed) (pipe : Pipe) : Prop where
  inbound : past.flatMap Deed.given ++ pipe.inbound = past.flatMap Deed.arriving
  outbound : past.flatMap Deed.collected ++ pipe.takeOutbound.1 = past.flatMap Deed.taken
  readLimit : pipe.readLimit = lastWord Deed.readLimit? none past
  acceptLimit : pipe.acceptLimit = lastWord Deed.acceptLimit? none past
  closed : pipe.closed = lastWord Deed.closes? false past
  hungUp : pipe.hungUp = past.any Deed.hangsUp

theorem follows_empty : Follows [] empty := ⟨rfl, rfl, rfl, rfl, rfl, rfl⟩

theorem Follows.concat {past : List Deed} {pipe pipe' : Pipe} {deed : Deed}
    (h : Follows past pipe) (haccounts : Accounts pipe deed pipe') :
    Follows (past ++ [deed]) pipe' where
  inbound := by
    rw [List.flatMap_append, List.flatMap_append, List.flatMap_singleton, List.flatMap_singleton,
      List.append_assoc, haccounts.inbound, ← List.append_assoc, h.inbound]
  outbound := by
    rw [List.flatMap_append, List.flatMap_append, List.flatMap_singleton, List.flatMap_singleton,
      List.append_assoc, haccounts.outbound, ← List.append_assoc, h.outbound]
  readLimit := by rw [haccounts.readLimit, h.readLimit, lastWord_concat]
  acceptLimit := by rw [haccounts.acceptLimit, h.acceptLimit, lastWord_concat]
  closed := by rw [haccounts.closed, h.closed, lastWord_concat]
  hungUp := by
    rw [haccounts.hungUp, h.hungUp, List.any_append, List.any_cons, List.any_nil, Bool.or_false,
      Bool.or_comm]

/-! ## How moves turn out -/

/-- How a deed turns out after what has happened. -/
def Fits (past : List Deed) : Deed → Prop
  | .tookOutbound bytes => past.flatMap Deed.collected ++ bytes = past.flatMap Deed.taken
  | .connected _ _ result | .updated result | .closed result => result = .ok ()
  | .sent data result =>
    if lastWord Deed.closes? false past then result = .error .notConnected
    else result = .ok (limited (lastWord Deed.acceptLimit? none past) data.length)
  | .received buffer result filled =>
    ∃ queued, past.flatMap Deed.given ++ queued = past.flatMap Deed.arriving ∧
      let n := limited (lastWord Deed.readLimit? none past) (min buffer.length queued.length)
      if past.any Deed.hangsUp ∧ queued = [] then
        result = .error (.connectionClosed "peer hung up") ∧ filled = buffer
      else result = .ok n ∧ filled = queued.take n ++ buffer.drop n
  | .pushed _ | .hungUp | .readsLimited _ | .sendsLimited _ => True

theorem Follows.fits {past : List Deed} {pipe : Pipe} (h : Follows past pipe) (move : Move) :
    Fits past (pipe.perform move).1 := by
  cases move with
  | takeOutbound => exact h.outbound
  | send data =>
    rw [perform_send, h.closed, h.acceptLimit]
    split
    · exact (if_pos ‹_›).mpr rfl
    · exact (if_neg ‹_›).mpr rfl
  | receive buffer =>
    rw [perform_receive, h.hungUp, h.readLimit]
    split
    · exact ⟨pipe.inbound, h.inbound, (if_pos ‹_›).mpr ⟨rfl, rfl⟩⟩
    · exact ⟨pipe.inbound, h.inbound, (if_neg ‹_›).mpr ⟨rfl, rfl⟩⟩
  | connect | update | close => rfl
  | push | hangUp | limitReads | limitSends => trivial

/-- The past decides how every move turns out. -/
theorem chronicled : Chronicled perform Follows Fits where
  fits h move := h.fits move
  follows h move := h.concat (accounts_perform _ move)

/-- **A pipe loses no byte and keeps their order**, however it is used from both its ends.  It gives
all that is wanted, there and allowed.  A receive fails just if the other end has hung up and
nothing is left, and a send just if the pipe was closed and not connected since. -/
theorem lossless (moves : List Move) :
    let history := chronicle perform empty moves
    let pipe := outcome perform empty moves
    history.map Deed.move = moves ∧
      history.flatMap Deed.given ++ pipe.inbound = history.flatMap Deed.arriving ∧
      history.flatMap Deed.collected ++ pipe.takeOutbound.1 = history.flatMap Deed.taken ∧
      ∀ past deed later, history = past ++ deed :: later → Fits past deed := by
  intro history pipe
  have hfollows : Follows history pipe := chronicled.outcome follows_empty moves
  refine ⟨map_chronicle move_perform _ moves, hfollows.inbound, hfollows.outbound, ?_⟩
  intro past deed later hhistory
  exact chronicled.deed follows_empty hhistory

/-- A byte that is pushed after the hang-up is received before the end shows. -/
example :
    chronicle perform empty
        [.push [1, 2], .hangUp, .receive [0, 0, 0], .push [3], .receive [0], .receive [0]] =
      [.pushed [1, 2], .hungUp, .received [0, 0, 0] (.ok 2) [1, 2, 0], .pushed [3],
        .received [0] (.ok 1) [3],
        .received [0] (.error (.connectionClosed "peer hung up")) [0]] := rfl

end Multiplayer.Pipe
