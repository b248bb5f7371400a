import Multiplayer.Stream.ByteSource
import Multiplayer.Stream.Frame
import Multiplayer.Time.Timestamp
import Multiplayer.World.Identifier

/-!
# Reassembling the inbound stream

The transport cuts the stream anywhere.  The assembler keeps the part of a unit that has arrived
and goes on from there, so the events do not depend on the cuts.

* `Stage` is the unit in progress, with exactly the bytes of it that matter later.
* `Assembler.accept` takes the next bytes and may complete an event.
* `Assembler.poll` reads until an event is complete or nothing is there; `poll_pending_lt` says
  that an event costs at least one byte.
* `Assembler.drain` polls until nothing is there or the source fails.
-/

namespace Multiplayer

/-- What the assembler recognises in the stream. -/
inductive StreamEvent where
  /-- The session is accepted: seconds between signs of life, and its number. -/
  | established (keepAlive : UInt8) (session : SessionId)
  /-- A clock sample with the time at which the server sent it. -/
  | clock (sentAt : Timestamp)
  /-- The server ends the session, or says that it is ended. -/
  | teardown (kind : FrameKind)
  | frame (frame : Frame)
deriving DecidableEq, Repr

/-- The part of a unit that has arrived. -/
inductive Stage where
  /-- Nothing. -/
  | header
  /-- The header of an acceptance. -/
  | keepAlive
  /-- The keep-alive seconds too. -/
  | sessionHigh (keepAlive : UInt8)
  /-- And the high byte of the session number. -/
  | sessionLow (keepAlive high : UInt8)
  /-- The header of a clock sample and some of its bytes. -/
  | clock (filled : Array UInt8)
  /-- The header of a data frame. -/
  | lengthHigh (header : UInt8)
  /-- The high byte of its length too. -/
  | lengthLow (header high : UInt8)
  /-- Its length and some of its payload. -/
  | payload (header : UInt8) (length : Nat) (filled : Array UInt8)
deriving DecidableEq, Repr

namespace Stage

/-- Bytes of a clock sample after its header; the last eight are the time in ticks. -/
def clockLength : Nat := 16

/-- How many bytes are asked for next: all that is missing of a clock sample or payload, and one
byte otherwise. -/
def wanted : Stage → Nat
  | .clock filled => clockLength - filled.size
  | .payload _ length filled => length - filled.size
  | _ => 1

end Stage

/-- The state of reassembly: the unit in progress, and how many header bytes were dropped because
nothing can start with them. -/
structure Assembler where
  stage : Stage
  discarded : Nat
deriving DecidableEq, Repr

namespace Assembler

/-- The state before anything has arrived. -/
def empty : Assembler := ⟨.header, 0⟩

instance : Inhabited Assembler := ⟨empty⟩

def isIdle (a : Assembler) : Bool := a.stage = .header

/-- Forgets the unit in progress. -/
def reset (a : Assembler) : Assembler := { a with stage := .header }

/-! ## Taking bytes -/

/-- The time of a complete clock sample. -/
def clockTime (sample : Bytes) : Timestamp :=
  let ticks := Bytes.toNat (sample.drop (Stage.clockLength - 8))
  Timestamp.ofTicks (UInt64.ofNat ticks).toInt64

/-- The event of a complete payload; one without room for a code is dropped. -/
def frameEvent? (header : UInt8) (payload : Bytes) : Option StreamEvent :=
  (Frame.ofPayload? header payload).toOption.map .frame

/-- What a header byte does: it completes an event, starts a unit, is skipped or is dropped. -/
def acceptHeader (discarded : Nat) (header : UInt8) : Option StreamEvent × Assembler :=
  match FrameKind.ofHeader? header with
  | some .hello => (none, ⟨.header, discarded⟩)
  | some .closing => (some (.teardown .closing), ⟨.header, discarded⟩)
  | some .closed => (some (.teardown .closed), ⟨.header, discarded⟩)
  | some .established => (none, ⟨.keepAlive, discarded⟩)
  | some .ntp => (none, ⟨.clock #[], discarded⟩)
  | some .builtin | some .application => (none, ⟨.lengthHigh header, discarded⟩)
  | some .authenticate | some .proxy | none => (none, ⟨.header, discarded + 1⟩)

/-- Takes the next bytes, at least one and at most as many as the stage wants. -/
def accept : Assembler → (first : UInt8) → (more : Bytes) → Option StreamEvent × Assembler
  | ⟨.header, discarded⟩, b, _ => acceptHeader discarded b
  | ⟨.keepAlive, discarded⟩, b, _ => (none, ⟨.sessionHigh b, discarded⟩)
  | ⟨.sessionHigh keepAlive, discarded⟩, b, _ => (none, ⟨.sessionLow keepAlive b, discarded⟩)
  | ⟨.sessionLow keepAlive high, discarded⟩, b, _ =>
    (some (.established keepAlive ⟨UInt16.ofNat (Bytes.toNat [high, b])⟩), ⟨.header, discarded⟩)
  | ⟨.clock filled, discarded⟩, b, more =>
    let filled := filled.push b ++ more
    if filled.size < Stage.clockLength then (none, ⟨.clock filled, discarded⟩)
    else (some (.clock (clockTime filled.toList)), ⟨.header, discarded⟩)
  | ⟨.lengthHigh header, discarded⟩, b, _ => (none, ⟨.lengthLow header b, discarded⟩)
  | ⟨.lengthLow header high, discarded⟩, b, _ =>
    let length := Bytes.toNat [high, b]
    if length = 0 then (none, ⟨.header, discarded⟩)
    else (none, ⟨.payload header length #[], discarded⟩)
  | ⟨.payload header length filled, discarded⟩, b, more =>
    let filled := filled.push b ++ more
    if filled.size < length then (none, ⟨.payload header length filled, discarded⟩)
    else (frameEvent? header filled.toList, ⟨.header, discarded⟩)

/-! ## Polling a source -/

variable {σ ε : Type} [ByteSource σ ε]

/-- Reads until one event is complete, nothing is there, or the source fails.  What has arrived
is kept in every case. -/
def poll (a : Assembler) (source : σ) : Except ε (Option StreamEvent) × Assembler × σ :=
  match _h : ByteSource.read a.stage.wanted source with
  | (.error e, source') => (.error e, a, source')
  | (.ok [], source') => (.ok none, a, source')
  | (.ok (b :: more), source') =>
    match a.accept b more with
    | (some event, a') => (.ok (some event), a', source')
    | (none, a') => poll a' source'
termination_by ByteSource.pending source
decreasing_by
  have := ByteSource.pending_read_lt (congrArg Prod.fst _h) (by simp)
  rwa [_h] at this

theorem poll_pending_lt {a : Assembler} {source : σ} {event : StreamEvent}
    (h : (a.poll source).1 = .ok (some event)) :
    ByteSource.pending (a.poll source).2.2 < ByteSource.pending source := by
  fun_induction poll a source with
  | case1 => simp at h
  | case2 => simp at h
  | case3 a source b more source' hread event' a' haccept =>
    have := ByteSource.pending_read_lt (congrArg Prod.fst hread) (by simp)
    rwa [hread] at this
  | case4 a source b more source' hread a' haccept ih =>
    have := ByteSource.pending_read_lt (congrArg Prod.fst hread) (by simp)
    rw [hread] at this
    exact Nat.lt_trans (ih h) this

/-- Polls until nothing is there or the source fails: the events in order, and the failure. -/
def drain (a : Assembler) (source : σ) : List StreamEvent × Option ε × Assembler × σ :=
  match _h : a.poll source with
  | (.error e, a', source') => ([], some e, a', source')
  | (.ok none, a', source') => ([], none, a', source')
  | (.ok (some event), a', source') =>
    let (events, failure, a'', source'') := drain a' source'
    (event :: events, failure, a'', source'')
termination_by ByteSource.pending source
decreasing_by
  have := poll_pending_lt (congrArg Prod.fst _h)
  rwa [_h] at this

end Assembler

end Multiplayer
