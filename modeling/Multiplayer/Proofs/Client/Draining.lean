import Multiplayer.Proofs.Client.Reachable
import Multiplayer.Proofs.Stream.Teardown
import Multiplayer.Proofs.Transport.Delivery

/-!
# What a tick handles

A tick over a pipe handles the events of everything that is there, up to the first that ends the
session, and leaves the bytes behind that one in the pipe.  How many bytes are asked for at once,
and how many the pipe gives at once, makes no difference.

* `pump_eq` and `tick_eq`: what a tick does, without its loops.
* `tick_drains` is the result, for a client in any state that it can come to and a pipe that gives
  at least one byte at once.
-/

namespace Multiplayer

open StreamEvent (throughTeardown)

namespace Pipe

/-- The pipe differs from another in what was sent only. -/
def SentFrom (before pipe : Pipe) : Prop :=
  ∃ outbound attempts, pipe = { before with outbound, attempts }

theorem keeps_send (before : Pipe) (data : Bytes) : (send data).Keeps before.SentFrom := by
  rintro pipe ⟨outbound, attempts, rfl⟩
  by_cases hclosed : before.closed
  · simp only [send, Attempt.run_bind, Attempt.run_get, hclosed, if_true, Attempt.run_throw]
    exact ⟨_, _, by rw [hclosed]⟩
  · simp only [send, Attempt.run_bind, Attempt.run_get, hclosed, Bool.false_eq_true, if_false,
      Attempt.run_pure, Attempt.run_set]
    exact ⟨_, _, by simp only [hclosed]; rfl⟩

/-- A send does not depend on how much is received at once. -/
theorem blind_send (limit : Option Nat) (data : Bytes) :
    (send data).Blind fun pipe => { pipe with readLimit := limit } := by
  intro pipe
  by_cases hclosed : pipe.closed
  · simp only [send, Attempt.run_bind, Attempt.run_get, hclosed, if_true, Attempt.run_throw]
  · simp only [send, Attempt.run_bind, Attempt.run_get, hclosed, Bool.false_eq_true, if_false,
      Attempt.run_pure, Attempt.run_set]

end Pipe

namespace Client

variable {τ δ α : Type}

/-! ## Handling several events -/

/-- What a table does to the state of the handlers when a frame comes. -/
def respond (table? : Option (Table (HandlerState α))) (now : Instant) (frame : Frame)
    (s : HandlerState α) : HandlerState α :=
  match table? with
  | none => s
  | some table =>
    let begun := { s with lobby := s.lobby.beginEvent frame.code, now }
    let builtin := if frame.isBuiltin then settle (table.dispatchBuiltin? frame) begun else begun
    settle (table.dispatch? frame) builtin

theorem dispatch_eq (now : Instant) (frame : Frame) (c : Client τ δ α) :
    c.dispatch now frame = { c with state := respond c.table now frame c.state } := by
  obtain ⟨_, _, _, _, _, _, table?, _, _, _, _⟩ := c
  cases table? <;> rfl

variable [Transport τ]

/-- Handles events one after another. -/
def handleAll (clock : Clock) (events : List StreamEvent) (c : Client τ δ α) : Client τ δ α :=
  events.foldl (fun c event => c.handle clock event) c

/-- An event that does not end the session has to do with neither assembler nor transport. -/
theorem handle_of_not_teardown {event : StreamEvent} (h : ¬ event.isTeardown) (clock : Clock)
    (c : Client τ δ α) (assembler : Assembler) (transport : τ) :
    ({ c with assembler, transport } : Client τ δ α).handle clock event =
      { c.handle clock event with assembler, transport } := by
  cases event with
  | established => rfl
  | clock => rfl
  | teardown => exact absurd rfl h
  | frame frame => simp only [handle, dispatch_eq]

/-- The same for several events. -/
theorem parts_handleAll {events : List StreamEvent} (h : ∀ event ∈ events, ¬ event.isTeardown)
    (clock : Clock) (c : Client τ δ α) :
    (handleAll clock events c).assembler = c.assembler ∧
      (handleAll clock events c).transport = c.transport := by
  induction events generalizing c with
  | nil => exact ⟨rfl, rfl⟩
  | cons event events ih =>
    have hone : c.handle clock event = { c.handle clock event with
        assembler := c.assembler, transport := c.transport } :=
      handle_of_not_teardown (h event List.mem_cons_self) clock c c.assembler c.transport
    obtain ⟨hassembler, htransport⟩ :=
      ih (fun other hother => h other (List.mem_cons_of_mem _ hother)) (c.handle clock event)
    exact ⟨hassembler.trans (by rw [hone]), htransport.trans (by rw [hone])⟩

/-- A session that is connected stays so until an event ends it. -/
theorem isConnected_handle (clock : Clock) (event : StreamEvent) (c : Client τ δ α) :
    (c.handle clock event).session.isConnected =
      (c.session.isConnected && !event.isTeardown) := by
  cases event with
  | established => exact (Bool.and_true _).symm
  | clock => exact (Bool.and_true _).symm
  | teardown =>
    change c.session.stop.isConnected = (c.session.isConnected && false)
    unfold Session.stop
    split <;> simp_all [Session.isConnected]
  | frame frame =>
    rw [handle, dispatch_session]
    exact (Bool.and_true _).symm

theorem isConnected_handleAll (clock : Clock) (events : List StreamEvent) (c : Client τ δ α) :
    (handleAll clock events c).session.isConnected =
      (c.session.isConnected && events.all fun event => !event.isTeardown) := by
  induction events generalizing c with
  | nil => simp [handleAll]
  | cons event events ih =>
    change (handleAll clock events (c.handle clock event)).session.isConnected = _
    rw [ih, isConnected_handle, List.all_cons, Bool.and_assoc]

theorem pump_of_not_connected {clock : Clock} {c : Client τ δ α}
    (h : ¬ c.session.isConnected) : c.pump clock = (.ok (), c) := by
  rw [pump, dif_neg h]

theorem run_beat (now : Instant) (wall : Timestamp) (c : Client τ δ α) :
    (beat now wall).run.run c =
      let polled := c.session.heartbeat.poll now
      let c' : Client τ δ α := { c with session := { c.session with heartbeat := polled.2 } }
      if polled.1 then (write (Control.heartbeat wall)).run.run c' else (.ok (), c') := by
  unfold beat
  rw [Attempt.run_bind, Attempt.run_get]
  dsimp only
  rcases c.session.heartbeat.poll now with ⟨_ | _, heartbeat⟩ <;> rfl

end Client

namespace Client

variable {δ α : Type}

/-! ## The loop of a tick -/

/-- The client once its assembler has come to a state and some bytes are left in the pipe. -/
def fed (a : Assembler) (rest : Bytes) (c : Client Pipe δ α) : Client Pipe δ α :=
  { c with assembler := a, transport := { c.transport with inbound := rest } }

theorem nextEvent_eq {c : Client Pipe δ α} (hc : c.Waiting)
    (hlimit : c.transport.readLimit ≠ some 0) :
    c.nextEvent =
      (match (c.assembler.first c.transport.inbound).1 with
        | some event => .ok (some event)
        | none =>
          if c.transport.hungUp then .error (.connectionClosed "peer hung up") else .ok none,
        c.fed (c.assembler.first c.transport.inbound).2.1
          (c.assembler.first c.transport.inbound).2.2) := by
  have hpos : 0 < c.settings.receiveChunk.toNat := UInt64.lt_iff_toNat_lt.1 c.receiveChunk_pos
  have hpoll := Assembler.poll_pipe hc hlimit hpos
  unfold nextEvent
  simp only [hpoll]
  rfl

theorem handle_fed {event : StreamEvent} (h : ¬ event.isTeardown) (clock : Clock)
    (a : Assembler) (rest : Bytes) (c : Client Pipe δ α) :
    (c.fed a rest).handle clock event =
      { c.handle clock event with
        assembler := a
        transport := { c.transport with inbound := rest } } :=
  handle_of_not_teardown h clock c a { c.transport with inbound := rest }

/-- Events do nothing to a pipe but close it. -/
theorem transport_handleAll {β : Type} (view : Pipe → β)
    (hview : ∀ pipe, view { pipe with closed := true } = view pipe) (clock : Clock)
    (events : List StreamEvent) (c : Client Pipe δ α) :
    view (handleAll clock events c).transport = view c.transport := by
  induction events generalizing c with
  | nil => rfl
  | cons event events ih =>
    change view (handleAll clock events (c.handle clock event)).transport = _
    rw [ih]
    cases event with
    | established => rfl
    | clock => rfl
    | teardown => exact hview c.transport
    | frame frame => rw [handle, dispatch_transport]

/-- Pumping handles the events up to a teardown, and then finds whether the pipe is hung up. -/
theorem pump_eq (clock : Clock) {c : Client Pipe δ α} (hc : c.Waiting)
    (hconnected : c.session.isConnected) (hlimit : c.transport.readLimit ≠ some 0) :
    let stream := c.assembler.untilTeardown c.transport.inbound
    let handled := handleAll clock stream.1 (c.fed stream.2.1 stream.2.2)
    c.pump clock =
      (if handled.session.isConnected && c.transport.hungUp then
          .error (.connectionClosed "peer hung up")
        else .ok (), handled) := by
  -- The loop ends with a failure, without an event, or without a session, and otherwise goes on
  -- from the client that has handled the event.
  fun_induction pump clock c with
  | case1 c _ e c' hevent =>
    rw [nextEvent_eq hc hlimit] at hevent
    rw [Assembler.untilTeardown_eq_first]
    rcases hfirst : c.assembler.first c.transport.inbound with ⟨_ | event, a, rest⟩
    · by_cases hhung : c.transport.hungUp
      · simp only [hfirst, hhung, if_true, Prod.mk.injEq, Except.error.injEq] at hevent
        obtain ⟨rfl, rfl⟩ := hevent
        simp [handleAll, fed, hconnected, hhung]
      · simp [hfirst, hhung] at hevent
    · simp [hfirst] at hevent
  | case2 c _ c' hevent =>
    rw [nextEvent_eq hc hlimit] at hevent
    rw [Assembler.untilTeardown_eq_first]
    rcases hfirst : c.assembler.first c.transport.inbound with ⟨_ | event, a, rest⟩
    · by_cases hhung : c.transport.hungUp
      · simp [hfirst, hhung] at hevent
      · simp only [hfirst, hhung, Bool.false_eq_true, if_false, Prod.mk.injEq, true_and] at hevent
        subst hevent
        simp [handleAll, hhung]
    · simp [hfirst] at hevent
  | case3 c _ event c' hevent ih =>
    have hwaiting := waiting_nextEvent hc
    rw [hevent] at hwaiting
    rw [nextEvent_eq hc hlimit] at hevent
    rw [Assembler.untilTeardown_eq_first]
    rcases hfirst : c.assembler.first c.transport.inbound with ⟨_ | event', a, rest⟩
    · simp only [hfirst] at hevent
      split at hevent <;> simp at hevent
    · simp only [hfirst, Prod.mk.injEq, Except.ok.injEq, Option.some.injEq] at hevent
      obtain ⟨rfl, rfl⟩ := hevent
      have hgoes : ((c.fed a rest).handle clock event').session.isConnected =
          (c.session.isConnected && !event'.isTeardown) := isConnected_handle ..
      by_cases hteardown : event'.isTeardown
      · rw [hteardown, Bool.not_true, Bool.and_false] at hgoes
        rw [pump_of_not_connected (by simp [hgoes])]
        simp [hteardown, handleAll, hgoes]
      -- Any other event changes neither the assembler nor the pipe, so what is left of the stream
      -- is the same for the client that has handled it.
      · have hconnected' : ((c.fed a rest).handle clock event').session.isConnected := by
          simp [hgoes, hconnected, hteardown]
        have hsame := handle_fed hteardown clock a rest c
        have hlimit' : ((c.fed a rest).handle clock event').transport.readLimit ≠ some 0 := by
          rw [hsame]
          exact hlimit
        have hstream : ((c.fed a rest).handle clock event').assembler.untilTeardown
            ((c.fed a rest).handle clock event').transport.inbound = a.untilTeardown rest := by
          rw [hsame]
        have hfed (a' : Assembler) (rest' : Bytes) :
            ((c.fed a rest).handle clock event').fed a' rest' =
              (c.fed a' rest').handle clock event' := by
          rw [hsame, handle_fed hteardown]
          rfl
        have hhung : ((c.fed a rest).handle clock event').transport.hungUp =
            c.transport.hungUp := by
          rw [hsame]
        have hrun := ih (waiting_handle clock event' hwaiting) hconnected' hlimit'
        simp only [hstream, hfed, hhung] at hrun
        simp only [hteardown, Bool.false_eq_true, if_false]
        exact hrun
  | case4 c hover => exact absurd hconnected hover

/-! ## Heartbeats -/

/-- The client differs from another in what was sent, and in what is on record about that. -/
def SentFrom (before c : Client Pipe δ α) : Prop :=
  ∃ heartbeat failedSends outbound attempts,
    c = { before with
      session := { before.session with heartbeat, failedSends }
      transport := { before.transport with outbound, attempts } }

theorem keeps_write_pipe (before : Client Pipe δ α) (bytes : Bytes) :
    (write bytes : Operation Pipe δ α Unit).Keeps before.SentFrom := by
  refine Attempt.Keeps.tryCatch ?_ fun e => Attempt.Keeps.bind ?_ fun _ => .throw e
  · rintro c ⟨heartbeat, failedSends, outbound, attempts, rfl⟩
    obtain ⟨outbound, attempts, hsent⟩ := Transport.keeps_deliver
      (Pipe.keeps_send before.transport) bytes { before.transport with outbound, attempts }
      ⟨outbound, attempts, rfl⟩
    refine ⟨heartbeat, failedSends, outbound, attempts, ?_⟩
    rw [← hsent]
    rfl
  · rintro c ⟨heartbeat, failedSends, outbound, attempts, rfl⟩
    exact ⟨heartbeat, failedSends + 1, outbound, attempts, rfl⟩

theorem sentFrom_beat (now : Instant) (wall : Timestamp) (c : Client Pipe δ α) :
    c.SentFrom ((beat now wall).run.run c).2 := by
  rw [run_beat]
  dsimp only
  have hpolled : c.SentFrom
      { c with session := { c.session with heartbeat := (c.session.heartbeat.poll now).2 } } :=
    ⟨_, _, _, _, rfl⟩
  split
  · exact keeps_write_pipe c _ _ hpolled
  · exact hpolled

/-! ## A whole tick -/

/-- The client once its pipe was given time. -/
def updated (c : Client Pipe δ α) : Client Pipe δ α :=
  { c with transport := { c.transport with updates := c.transport.updates + 1 } }

/-- How a tick ends after the events: without a session there is nothing to do, a pipe that is hung
up makes it fail, and otherwise a heartbeat is sent if one is due. -/
def conclude (now : Instant) (wall : Timestamp) : Operation Pipe δ α Unit := fun c =>
  if c.session.isConnected then
    if c.transport.hungUp then (.error (.transport (.connectionClosed "peer hung up")), c)
    else (beat now wall).run.run c
  else (.ok (), c)

theorem run_conclude (now : Instant) (wall : Timestamp) (c : Client Pipe δ α) :
    (conclude now wall).run.run c =
      if c.session.isConnected then
        if c.transport.hungUp then (.error (.transport (.connectionClosed "peer hung up")), c)
        else (beat now wall).run.run c
      else (.ok (), c) := rfl

/-- A tick of a connected client handles the events up to a teardown and comes to its end. -/
theorem tick_eq (now : Instant) (clock : Clock) {c : Client Pipe δ α} (hc : c.Waiting)
    (hconnected : c.session.isConnected) (hlimit : c.transport.readLimit ≠ some 0) :
    let stream := c.assembler.untilTeardown c.transport.inbound
    (tick now clock).run.run c = (conclude now clock.wall).run.run
      (handleAll clock stream.1 (c.updated.fed stream.2.1 stream.2.2)) := by
  intro stream
  have hupdate : (onTransport Transport.update : Operation Pipe δ α Unit).run.run c =
      (.ok (), c.updated) := rfl
  let handled := handleAll clock stream.1 (c.updated.fed stream.2.1 stream.2.2)
  have hpump : c.updated.pump clock = (if handled.session.isConnected && c.transport.hungUp then
      .error (.connectionClosed "peer hung up") else .ok (), handled) :=
    pump_eq clock (c := c.updated) hc hconnected hlimit
  have harrived : (handleArrived clock : Operation Pipe δ α Unit).run.run c.updated =
      (if handled.session.isConnected && c.transport.hungUp then
        .error (.transport (.connectionClosed "peer hung up")) else .ok (), handled) := by
    change ((c.updated.pump clock).1.mapError ClientError.transport, (c.updated.pump clock).2) = _
    rw [hpump]
    split
    · rfl
    · rfl
  have hhung : handled.transport.hungUp = c.transport.hungUp :=
    transport_handleAll Pipe.hungUp (fun _ => rfl) ..
  change (tick now clock).run.run c = (conclude now clock.wall).run.run handled
  unfold tick
  rw [Attempt.run_bind, Attempt.run_get, run_conclude, hhung]
  simp only [hconnected, if_true, Attempt.run_bind, hupdate, harrived]
  by_cases hopen : handled.session.isConnected
  · by_cases hend : c.transport.hungUp
    · simp [hopen, hend]
    · simp [hopen, hend]
  · simp only [hopen, Bool.false_and, Bool.false_eq_true, if_false, Attempt.run_get,
      Attempt.run_pure]

theorem sentFrom_conclude (now : Instant) (wall : Timestamp) (c : Client Pipe δ α) :
    c.SentFrom ((conclude now wall).run.run c).2 := by
  rw [run_conclude]
  split
  · split
    · exact ⟨_, _, _, _, rfl⟩
    · exact sentFrom_beat now wall c
  · exact ⟨_, _, _, _, rfl⟩

/-- A tick that comes upon no teardown takes everything, handles all events, and then at most
sends. -/
theorem tick_of_going (now : Instant) (clock : Clock) {c : Client Pipe δ α} (hc : c.Waiting)
    (hconnected : c.session.isConnected) (hlimit : c.transport.readLimit ≠ some 0)
    (hgoing : ∀ event ∈ (c.assembler.feed c.transport.inbound).1, ¬ event.isTeardown) :
    let fed := c.assembler.feed c.transport.inbound
    (handleAll clock fed.1 (c.updated.fed fed.2 [])).SentFrom ((tick now clock).run.run c).2 := by
  intro fed
  rw [tick_eq now clock hc hconnected hlimit, Assembler.untilTeardown_eq_feed hgoing]
  exact sentFrom_conclude ..

/-! ## Other limits -/

/-- The client with other limits on what is received at once, its own and that of the pipe. -/
def tuned (chunk : UInt64) (hchunk : 0 < chunk) (limit : Option Nat) (c : Client Pipe δ α) :
    Client Pipe δ α :=
  { c with
    settings := { c.settings with receiveChunk := chunk }
    transport := { c.transport with readLimit := limit }
    receiveChunk_pos := hchunk }

section

variable {chunk : UInt64} {hchunk : 0 < chunk} {limit : Option Nat}

theorem handle_tuned (clock : Clock) (event : StreamEvent) (c : Client Pipe δ α) :
    (c.tuned chunk hchunk limit).handle clock event =
      (c.handle clock event).tuned chunk hchunk limit := by
  cases event with
  | established => rfl
  | clock => rfl
  | teardown => rfl
  | frame frame =>
    simp only [handle, dispatch_eq]
    rfl

theorem handleAll_tuned (clock : Clock) (events : List StreamEvent) (c : Client Pipe δ α) :
    handleAll clock events (c.tuned chunk hchunk limit) =
      (handleAll clock events c).tuned chunk hchunk limit := by
  induction events generalizing c with
  | nil => rfl
  | cons event events ih =>
    change handleAll clock events ((c.tuned chunk hchunk limit).handle clock event) = _
    rw [handle_tuned, ih]
    rfl

theorem blind_write (bytes : Bytes) :
    (write bytes : Operation Pipe δ α Unit).Blind (tuned chunk hchunk limit) := by
  have hdeliver := Transport.blind_deliver (Pipe.blind_send limit) bytes
  refine Attempt.Blind.tryCatch ?_ fun e => Attempt.Blind.bind (fun _ => rfl) fun _ => .throw e
  intro c
  change ((((Transport.deliver bytes).run.run { c.transport with readLimit := limit }).1.mapError
      .transport,
    { c.tuned chunk hchunk limit with
      transport := ((Transport.deliver bytes).run.run
        { c.transport with readLimit := limit }).2 }) :
      Except ClientError Unit × Client Pipe δ α) = _
  rw [hdeliver c.transport]
  rfl

theorem blind_beat (now : Instant) (wall : Timestamp) :
    (beat now wall : Operation Pipe δ α Unit).Blind (tuned chunk hchunk limit) := by
  intro c
  have hpoll : (c.tuned chunk hchunk limit).session.heartbeat.poll now =
      c.session.heartbeat.poll now := rfl
  rw [run_beat, run_beat, hpoll]
  dsimp only
  split
  · exact blind_write (Control.heartbeat wall) { c with
      session := { c.session with heartbeat := (c.session.heartbeat.poll now).2 } }
  · rfl

theorem blind_conclude (now : Instant) (wall : Timestamp) :
    (conclude now wall : Operation Pipe δ α Unit).Blind (tuned chunk hchunk limit) := by
  intro c
  have hbeat : (beat now wall).run.run (c.tuned chunk hchunk limit) = _ :=
    blind_beat now wall c
  have hsession : (c.tuned chunk hchunk limit).session = c.session := rfl
  have hhung : (c.tuned chunk hchunk limit).transport.hungUp = c.transport.hungUp := rfl
  rw [run_conclude, run_conclude, hsession, hhung, hbeat]
  split
  · split <;> rfl
  · rfl

/-- A tick is the same under other limits. -/
theorem tick_tuned (now : Instant) (clock : Clock) {c : Client Pipe δ α} (hc : c.Waiting)
    (hconnected : c.session.isConnected) (hlimit : c.transport.readLimit ≠ some 0)
    (hlimit' : limit ≠ some 0) :
    (tick now clock).run.run (c.tuned chunk hchunk limit) =
      (((tick now clock).run.run c).1,
        ((tick now clock).run.run c).2.tuned chunk hchunk limit) := by
  let stream := c.assembler.untilTeardown c.transport.inbound
  have hhandled : handleAll clock stream.1
      ((c.tuned chunk hchunk limit).updated.fed stream.2.1 stream.2.2) =
      (handleAll clock stream.1 (c.updated.fed stream.2.1 stream.2.2)).tuned chunk hchunk limit :=
    handleAll_tuned clock stream.1 (c.updated.fed stream.2.1 stream.2.2)
  have htick : (tick now clock).run.run (c.tuned chunk hchunk limit) =
      (conclude now clock.wall).run.run (handleAll clock stream.1
        ((c.tuned chunk hchunk limit).updated.fed stream.2.1 stream.2.2)) :=
    tick_eq now clock (c := c.tuned chunk hchunk limit) hc hconnected hlimit'
  rw [htick, hhandled, blind_conclude, tick_eq now clock hc hconnected hlimit]

end

/-- **A tick drains, and limits do not show.**  A tick handles the events of all bytes that are
there, or of those up to the end of the first teardown, and takes no others.  How many bytes are
asked for or given at once makes no difference. -/
theorem tick_drains [Directory δ] {c : Client Pipe δ α} (hreachable : c.Reachable)
    (hconnected : c.session.isConnected) (hlimit : c.transport.readLimit ≠ some 0)
    (now : Instant) (clock : Clock) :
    let inbound := c.transport.inbound
    let run := (tick now clock).run.run c
    (∃ taken rest, inbound = taken ++ rest ∧ run.2.transport.inbound = rest ∧
      (rest ≠ [] → ∃ event ∈ (c.assembler.drain taken).1, event.isTeardown) ∧
      (∀ part, part <+: taken → part ≠ taken →
        ∀ event ∈ (c.assembler.drain part).1, ¬ event.isTeardown) ∧
      run = (conclude now clock.wall).run.run
        (handleAll clock (throughTeardown (c.assembler.drain inbound).1)
          (c.updated.fed (c.assembler.drain taken).2.2.1 rest))) ∧
    (run.2.session.isConnected → run.2.transport.inbound = []) ∧
    ∀ chunk (hchunk : 0 < chunk) limit, limit ≠ some 0 →
      (tick now clock).run.run (c.tuned chunk hchunk limit) =
        (run.1, run.2.tuned chunk hchunk limit) := by
  intro inbound run
  have hc := hreachable.waiting
  obtain ⟨taken, hinbound, hfeed, hminimal⟩ := Assembler.feed_untilTeardown c.assembler inbound
  have hevents := Assembler.events_untilTeardown c.assembler inbound
  let stream := c.assembler.untilTeardown inbound
  let handled := handleAll clock stream.1 (c.updated.fed stream.2.1 stream.2.2)
  have hrun : run = (conclude now clock.wall).run.run handled :=
    tick_eq now clock hc hconnected hlimit
  obtain ⟨_, _, _, _, hend⟩ := sentFrom_conclude now clock.wall handled
  have hopen : run.2.session.isConnected = handled.session.isConnected := by
    rw [hrun, hend]
    rfl
  have hrest : run.2.transport.inbound = stream.2.2 := by
    rw [hrun, hend]
    exact transport_handleAll Pipe.inbound (fun _ => rfl) ..
  refine ⟨⟨taken, stream.2.2, hinbound, hrest, ?_, ?_, ?_⟩, ?_, ?_⟩
  · intro hne
    rw [Assembler.drain_bytes hc, hfeed]
    exact Assembler.teardown_of_rest hne
  · intro part hpart hshorter event hevent
    rw [Assembler.drain_bytes hc] at hevent
    exact hminimal part hpart hshorter event hevent
  · rw [hrun, Assembler.drain_bytes hc, Assembler.drain_bytes hc, hfeed, ← hevents]
  · intro hstill
    rw [hopen, isConnected_handleAll] at hstill
    rw [hrest]
    by_cases hne : stream.2.2 = []
    · exact hne
    · obtain ⟨event, hevent, hteardown⟩ := Assembler.teardown_of_rest hne
      rw [Bool.and_eq_true, List.all_eq_true] at hstill
      have := hstill.2 event hevent
      simp [hteardown] at this
  · intro chunk hchunk limit hlimit'
    exact tick_tuned now clock hc hconnected hlimit hlimit'

/-- A client that notes the codes of the frames that it handles. -/
def noting : Client Pipe FixedDirectory (List UInt16) :=
  let built := ((default : Builder).withReceiveChunk 0).build
    (Credential.parse "cDpaRHBaVkhCclZraENOZz09") Pipe.empty ⟨some (.ofAddress "localhost" 7000)⟩ []
    ⟨0⟩
  ((Call.addHandler 0x0102 fun frame =>
    modify fun s => { s with app := frame.code :: s.app }).perform.run.run built).2

def started : Client Pipe FixedDirectory (List UInt16) :=
  ((Call.start ⟨0⟩).perform.run.run noting).2

/-- With a frame, a teardown and one byte more to receive from a pipe that is hung up and gives one
byte at once. -/
def burst : Client Pipe FixedDirectory (List UInt16) :=
  { started with
    transport := { started.transport with
      inbound := [0x39, 0, 3, 1, 2, 0xaa, 0x02, 0x77], hungUp := true, readLimit := some 1 } }

theorem burst_drains :
    let run := (tick ⟨5⟩ ⟨⟨5⟩, default⟩).run.run burst
    burst.Reachable ∧ burst.session.isConnected ∧ burst.transport.readLimit ≠ some 0 ∧
      (run.2.session.isConnected → run.2.transport.inbound = []) ∧
      (tick ⟨5⟩ ⟨⟨5⟩, default⟩).run.run (burst.tuned 1024 (by decide) none) =
        (run.1, run.2.tuned 1024 (by decide) none) := by
  intro run
  have hreachable : burst.Reachable :=
    (((Reachable.build ..).call _).call (.start ⟨0⟩)).shared _ _ _
  have hconnected : burst.session.isConnected := by decide +kernel
  have hlimit : burst.transport.readLimit ≠ some 0 := by decide
  obtain ⟨-, hempty, htuned⟩ := tick_drains hreachable hconnected hlimit ⟨5⟩ ⟨⟨5⟩, default⟩
  exact ⟨hreachable, hconnected, hlimit, hempty, htuned 1024 (by decide) none (by decide)⟩

end Client

end Multiplayer
