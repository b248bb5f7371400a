import Mathlib.Data.List.Chain
import Multiplayer.Proofs.Client.Run
import Multiplayer.Proofs.Client.Lifecycle

/-!
# The phases of a client

A session is idle, then connected, then stopped.  Whatever is called in whatever order, and
whatever directory and transport answer, a client goes through these phases once.

* `Phase.Leads` is the order of the phases, and `leads_step` says that every step follows it.
* `Deed.DoesNothing`: what a call for a session comes to when there is none.
* `lifecycle` is the result.  The log of the transport, which shows how it is used, changes nothing.
-/

namespace Multiplayer

/-- What phase may follow in one step. -/
inductive Phase.Leads : Phase → Phase → Prop
  | stays (phase : Phase) : Leads phase phase
  | begins : Leads .idle .connected
  | ends : Leads .connected .stopped

variable {τ δ α : Type}

namespace Deed

/-- The deed is a start that has succeeded. -/
def isBegin (d : Deed τ δ α) : Bool :=
  match d.call?, d.result with
  | some (.start _), .ok () => true
  | _, _ => false

/-- What a call that is about a session comes to without one.  Ticking and stopping are no failures,
sending is, and the client, its transport and its handlers are as if nothing was called.  Only the
heartbeat interval begins anew when the client ticks. -/
def DoesNothing (d : Deed τ δ α) : Prop :=
  match d.call? with
  | some (.tick now _) =>
    d.result = .ok () ∧
      d.after = { d.before with session := d.before.session.resetHeartbeat now }
  | some .stop => d.result = .ok () ∧ d.after = d.before
  | some (.sendRaw _) | some (.send _) => (∃ e, d.result = .error e) ∧ d.after = d.before
  | _ => True

/-- What a call may do in the phase in which it is made. -/
structure InOrder (d : Deed (Logged τ) δ α) : Prop where
  /-- Only an idle client is started.  For others nobody is asked for the endpoint, and nothing is
  connected or written. -/
  start : ∀ now, d.call? = some (.start now) → d.before.session.phase ≠ .idle →
    d.result = .error (.session .alreadyStarted) ∧ d.after = d.before
  offline : ¬ d.before.session.isConnected → d.DoesNothing
  /-- Stopping ends the session and closes the transport, also when the farewell fails. -/
  stop : d.call? = some .stop → d.before.session.isConnected →
    d.after.session.phase = .stopped ∧ d.after.assembler.isIdle ∧
      ∃ result, d.used.getLast? = some (.close result)

end Deed

namespace Client

open Attempt (Keeps)

/-! ## Without a session -/

section

variable [Transport τ] {c : Client τ δ α} (h : ¬ c.session.isConnected)

include h

theorem run_tick_of_not_connected (now : Instant) (clock : Clock) :
    (tick now clock : Operation τ δ α Unit).run.run c =
      (.ok (), { c with session := c.session.resetHeartbeat now }) := by
  unfold tick
  rw [Attempt.run_bind, Attempt.run_get]
  simp only [h, Bool.false_eq_true, if_false]
  rfl

theorem run_sendRaw_of_not_connected (bytes : Bytes) :
    (sendRaw bytes : Operation τ δ α Unit).run.run c = (.error (.session .notConnected), c) := by
  unfold sendRaw
  rw [Attempt.run_bind, Attempt.run_get]
  simp only [h, Bool.false_eq_true, if_false, Attempt.run_throw]

theorem run_send_of_not_connected (packet : Packet) :
    ∃ e, (send packet : Operation τ δ α Unit).run.run c = (.error e, c) := by
  unfold send
  rw [Attempt.run_bind]
  cases hencode : packet.encode with
  | error e => exact ⟨.wire e, rfl⟩
  | ok frame => exact ⟨_, run_sendRaw_of_not_connected h frame⟩

theorem doesNothing_of_not_connected [Directory δ] (call : Call α) :
    ((Step.call call).deed c).DoesNothing := by
  cases call with
  | tick now clock =>
    have hrun := run_tick_of_not_connected h now clock
    exact ⟨congrArg Prod.fst hrun, congrArg Prod.snd hrun⟩
  | stop =>
    have hrun := run_stop_of_not_connected h
    exact ⟨congrArg Prod.fst hrun, congrArg Prod.snd hrun⟩
  | sendRaw bytes =>
    have hrun := run_sendRaw_of_not_connected h bytes
    exact ⟨⟨_, congrArg Prod.fst hrun⟩, congrArg Prod.snd hrun⟩
  | send packet =>
    obtain ⟨e, hrun⟩ := run_send_of_not_connected h packet
    exact ⟨⟨e, congrArg Prod.fst hrun⟩, congrArg Prod.snd hrun⟩
  | addHandler | addMiddleware | onUserMessage | onClientError | onServerError | start =>
    exact trivial

end

/-- What a call comes to without a session, with the client that it leaves. -/
inductive Idles [Transport τ] [Directory δ] (made : Call α) (c : Client τ δ α) :
    Except ClientError Unit × Client τ δ α → Prop
  | same (result) : Idles made c (result, c)
  | ticked (now) : Idles made c (.ok (), { c with session := c.session.resetHeartbeat now })
  | registered (h : made.isRegistration) (handlers middleware subscriptions) :
    Idles made c (.ok (), { c with
      registry := { c.registry with handlers, middleware }
      subscriptions })
  | started (now) (h : made = .start now) : Idles made c ((start now).run.run c)

theorem idles [Transport τ] [Directory δ] {c : Client τ δ α} (hover : ¬ c.session.isConnected)
    (made : Call α) : Idles made c (made.perform.run.run c) := by
  by_cases hregistration : made.isRegistration
  · have hregisters := registers_perform hregistration c
    generalize made.perform.run.run c = run at hregisters ⊢
    cases hregisters with
    | closed => exact .same _
    | invalid => exact .same _
    | added => exact .registered hregistration _ _ _
  · cases made with
    | start now => exact .started now rfl
    | tick now clock =>
      rw [Call.perform, run_tick_of_not_connected hover]
      exact .ticked now
    | stop =>
      rw [Call.perform, run_stop_of_not_connected hover]
      exact .same _
    | sendRaw bytes =>
      rw [Call.perform, run_sendRaw_of_not_connected hover]
      exact .same _
    | send packet =>
      obtain ⟨e, hrun⟩ := run_send_of_not_connected hover packet
      rw [Call.perform, hrun]
      exact .same _
    | _ => exact absurd rfl hregistration

/-! ## What leaves the phase alone -/

/-- The session is in a phase with a property. -/
def InPhase (P : Phase → Prop) (c : Client τ δ α) : Prop := P c.session.phase

section

variable (P : Phase → Prop)

variable [Transport τ]

theorem phase_write (bytes : Bytes) :
    Keeps (InPhase P) (write bytes : Operation τ δ α Unit) := by
  intro c h
  rcases hrun : (write bytes).run.run c with ⟨result, c'⟩
  obtain ⟨transport, refused, rfl⟩ := eq_of_write hrun
  exact h

theorem phase_sendRaw (bytes : Bytes) :
    Keeps (InPhase P) (sendRaw bytes : Operation τ δ α Unit) := by
  intro c h
  rcases hrun : (sendRaw bytes).run.run c with ⟨result, c'⟩
  obtain ⟨transport, refused, rfl⟩ := eq_of_sendRaw hrun
  exact h

theorem phase_send (packet : Packet) :
    Keeps (InPhase P) (send packet : Operation τ δ α Unit) := by
  intro c h
  rcases hrun : (send packet).run.run c with ⟨result, c'⟩
  obtain ⟨transport, refused, rfl⟩ := eq_of_send hrun
  exact h

theorem phase_beat (now : Instant) (wall : Timestamp) :
    Keeps (InPhase P) (beat now wall : Operation τ δ α Unit) := by
  refine Keeps.get_bind fun c h => ?_
  rcases c.session.heartbeat.poll now with ⟨due, heartbeat⟩
  refine Keeps.bind (P := InPhase P) (Keeps.set ?_) (fun _ => ?_) c h
  · exact h
  · split
    · exact phase_write P _
    · exact Keeps.pure _

end

/-! ## The order of the phases -/

variable [Transport τ]

/-- The session has begun, and may be over. -/
abbrev Began (c : Client τ δ α) : Prop := c.InPhase (· ≠ .idle)

theorem began_handle (clock : Clock) (event : StreamEvent) {c : Client τ δ α} (h : c.Began) :
    (c.handle clock event).Began := by
  cases event with
  | established => exact h
  | clock => exact h
  | frame frame =>
    change (c.dispatch clock.monotonic frame).session.phase ≠ .idle
    rw [dispatch_session]
    exact h
  | teardown =>
    change c.session.stop.phase ≠ .idle
    unfold Session.stop
    split
    · exact Phase.noConfusion
    · exact h

theorem began_pump (clock : Clock) {c : Client τ δ α} (h : c.Began) : (c.pump clock).2.Began := by
  have hnext {c c' : Client τ δ α} {result} (hevent : c.nextEvent = (result, c'))
      (h : c.Began) : c'.Began := by
    have hsession : c.nextEvent.2.session = c.session := rfl
    rw [hevent] at hsession
    change c'.session.phase ≠ .idle
    rw [hsession]
    exact h
  fun_induction pump clock c with
  | case1 c _ e c' hevent => exact hnext hevent h
  | case2 c _ c' hevent => exact hnext hevent h
  | case3 c _ event c' hevent ih => exact ih (began_handle clock event (hnext hevent h))
  | case4 => exact h

theorem began_tick (now : Instant) (clock : Clock) :
    Keeps Began (tick now clock : Operation τ δ α Unit) := by
  intro c h
  have hupdated {c₁ : Client τ δ α} {result}
      (hupdate : (onTransport Transport.update).run.run c = (result, c₁)) : c₁.Began := by
    obtain ⟨transport, rfl⟩ := eq_of_onTransport hupdate
    exact h
  have hticks := ticks now clock c
  generalize (tick now clock).run.run c = run at hticks ⊢
  cases hticks with
  | offline => exact h
  | stuck _ hupdate => exact hupdated hupdate
  | broken _ hupdate => exact began_pump clock (hupdated hupdate)
  | ended _ hupdate => exact began_pump clock (hupdated hupdate)
  | beats _ hupdate =>
    exact phase_beat (· ≠ .idle) now clock.wall _ (began_pump clock (hupdated hupdate))

/-- Whatever becomes of its farewell, a connected client is stopped for good. -/
theorem phase_stop {c : Client τ δ α} (h : c.session.isConnected) :
    ((stop : Operation τ δ α Unit).run.run c).2.session.phase = .stopped := by
  rw [run_stop h]
  refine phase_write (· = .stopped) Control.closing { c with session := c.session.stop } ?_
  change c.session.stop.phase = .stopped
  rw [Session.stop, if_pos h]

variable [Directory δ]

/-- A start that succeeds takes the session from idle to connected, and one that fails leaves the
phase as it is. -/
theorem phase_start (now : Instant) (c : Client τ δ α) :
    (∃ e, ((start now).run.run c).1 = .error e ∧
      ((start now).run.run c).2.session.phase = c.session.phase) ∨
    (((start now).run.run c).1 = .ok () ∧ c.session.phase = .idle ∧
      ((start now).run.run c).2.session.phase = .connected) := by
  by_cases hidle : c.session.phase = .idle
  · have hstarts := starts hidle now
    rcases hrun : (start now).run.run c with ⟨e | ⟨⟩, c'⟩ <;> rw [hrun] at hstarts
    · obtain ⟨_, _, _, _, _, _, _, rfl⟩ := hstarts.eq_of_error
      exact .inl ⟨e, rfl, rfl⟩
    · cases hstarts
      exact .inr ⟨rfl, hidle, rfl⟩
  · rw [run_start_of_not_idle hidle]
    exact .inl ⟨_, rfl, rfl⟩

/-- There is no way back to the start. -/
theorem began_perform (call : Call α) :
    Keeps Began (call.perform : Operation τ δ α Unit) := by
  by_cases hregistration : call.isRegistration
  · intro c h
    have hregisters := registers_perform hregistration c
    generalize call.perform.run.run c = run at hregisters ⊢
    cases hregisters with
    | closed => exact h
    | invalid => exact h
    | added => exact h
  · cases call with
    | sendRaw bytes => exact phase_sendRaw _ bytes
    | send packet => exact phase_send _ packet
    | tick now clock => exact began_tick now clock
    | start now =>
      intro c h
      rw [Call.perform, run_start_of_not_idle h]
      exact h
    | stop =>
      intro c h
      by_cases hconnected : c.session.isConnected
      · intro hidle
        rw [Call.perform, phase_stop hconnected] at hidle
        cases hidle
      · rw [Call.perform, run_stop_of_not_connected hconnected]
        exact h
    | _ => exact absurd rfl hregistration

/-! ## Whole runs -/

theorem began_step (step : Step τ δ α) {c : Client τ δ α} (h : c.Began) :
    (step.deed c).after.Began := by
  cases step with
  | call made => exact began_perform made c h
  | shared => exact h

/-- What has begun a session leaves it connected, and could not have begun it before. -/
theorem isBegin_deed {step : Step τ δ α} {c : Client τ δ α} (h : (step.deed c).isBegin) :
    c.session.phase = .idle ∧ (step.deed c).after.session.phase = .connected := by
  cases step with
  | shared => cases h
  | call made =>
    cases made with
    | start now =>
      rcases phase_start now c with ⟨e, hfailed, -⟩ | ⟨-, hidle, hconnected⟩
      · have hresult : ((Step.call (.start now)).deed c).result = .error e := hfailed
        rw [Deed.isBegin, hresult] at h
        cases h
      · exact ⟨hidle, hconnected⟩
    | _ => cases h

/-- Without a session, only a start changes the phase. -/
theorem phase_of_not_connected {c : Client τ δ α} (hover : ¬ c.session.isConnected)
    (step : Step τ δ α) :
    (step.deed c).after.session.phase = c.session.phase ∨ (step.deed c).isBegin := by
  cases step with
  | shared => exact .inl rfl
  | call made =>
    have hidles := idles hover made
    generalize hrun : made.perform.run.run c = run at hidles
    have hafter : ((Step.call made).deed c).after = run.2 := congrArg Prod.snd hrun
    rw [hafter]
    cases hidles with
    | same => exact .inl rfl
    | ticked => exact .inl rfl
    | registered => exact .inl rfl
    | started now hmade =>
      subst hmade
      rcases phase_start now c with ⟨e, -, hsame⟩ | ⟨hok, -, -⟩
      · exact .inl hsame
      · right
        have hresult : ((Step.call (.start now)).deed c).result = .ok () := hok
        rw [Deed.isBegin, hresult]
        rfl

/-- Every step follows the order of the phases. -/
theorem leads_step (step : Step τ δ α) (c : Client τ δ α) :
    c.session.phase.Leads (step.deed c).after.session.phase := by
  by_cases hconnected : c.session.isConnected
  · have hphase : c.session.phase = .connected := of_decide_eq_true hconnected
    have hbefore : c.Began := fun hidle => Phase.noConfusion (hphase.symm.trans hidle)
    have hbegan := began_step step hbefore
    rw [hphase]
    cases hnext : (step.deed c).after.session.phase with
    | idle => exact absurd hnext hbegan
    | connected => exact .stays _
    | stopped => exact .ends
  · rcases phase_of_not_connected hconnected step with hsame | hbegin
    · rw [hsame]
      exact .stays _
    · obtain ⟨hidle, hnext⟩ := isBegin_deed hbegin
      rw [hidle, hnext]
      exact .begins

/-- If a session has still not begun after a step, the client is the same but for what others share
with it, registrations, the remains of starts that have failed, and the heartbeat interval that a
tick begins. -/
theorem eq_of_still_idle {step : Step τ δ α} {c : Client τ δ α}
    (h : (step.deed c).after.session.phase = .idle) :
    c.session.phase = .idle ∧
      ∃ transport directory state registry subscriptions table assembler last refused,
        (assembler = c.assembler ∨ assembler = c.assembler.reset) ∧
        (step.deed c).after = { c with
          transport, directory, state, registry, subscriptions, table, assembler
          session := (c.session.resetHeartbeat last).withRefused refused } := by
  have hidle : c.session.phase = .idle := by
    have hleads := leads_step step c
    rw [h] at hleads
    generalize c.session.phase = phase at hleads
    cases hleads
    rfl
  refine ⟨hidle, ?_⟩
  cases step with
  | shared transport directory state =>
    exact ⟨_, _, _, _, _, _, _, c.session.heartbeat.last, 0, .inl rfl, rfl⟩
  | call made =>
    have hover : ¬ c.session.isConnected := by simp [Session.isConnected, hidle]
    have hidles := idles hover made
    change (made.perform.run.run c).2.session.phase = .idle at h
    change ∃ transport directory state registry subscriptions table assembler last refused, _ ∧
      (made.perform.run.run c).2 = _
    generalize made.perform.run.run c = run at hidles h ⊢
    cases hidles with
    | same | registered =>
      exact ⟨_, _, _, _, _, _, _, c.session.heartbeat.last, 0, .inl rfl, rfl⟩
    | ticked now => exact ⟨_, _, _, _, _, _, _, now, 0, .inl rfl, rfl⟩
    | started now =>
      rcases phase_start now c with ⟨e, herror, -⟩ | ⟨-, -, hconnected⟩
      · have hstarts := starts hidle now
        generalize (start now).run.run c = run at hstarts herror ⊢
        obtain ⟨result, c'⟩ := run
        obtain rfl := herror
        obtain ⟨_, _, _, _, _, refused, hassembler, rfl⟩ := hstarts.eq_of_error
        exact ⟨_, _, _, _, _, _, _, c.session.heartbeat.last, refused, hassembler, rfl⟩
      · cases h.symm.trans hconnected

/-- The phases of a run follow one another. -/
theorem isChain_phases (steps : List (Step τ δ α)) (c : Client τ δ α) :
    (c.session.phase :: (c.history steps).map (·.after.session.phase)).IsChain Phase.Leads := by
  induction steps generalizing c with
  | nil => exact .singleton _
  | cons step steps ih => exact .cons_cons (leads_step step c) (ih (step.deed c).after)

/-- A session begins at most once in a run, and no more if it has begun before. -/
theorem countP_isBegin_le (steps : List (Step τ δ α)) (c : Client τ δ α) :
    (c.history steps).countP Deed.isBegin ≤ if c.session.phase = .idle then 1 else 0 := by
  induction steps generalizing c with
  | nil => exact Nat.zero_le _
  | cons step steps ih =>
    have hlater := ih (step.deed c).after
    have hleads := leads_step step c
    rw [history, List.countP_cons]
    by_cases hbegin : (step.deed c).isBegin
    · obtain ⟨hidle, hconnected⟩ := isBegin_deed hbegin
      simp only [hconnected, reduceCtorEq, if_false] at hlater
      simp only [hbegin, hidle, if_true]
      omega
    · simp only [hbegin, Bool.false_eq_true, if_false, Nat.add_zero]
      refine Nat.le_trans hlater ?_
      -- A session that is idle afterwards was idle before.
      generalize c.session.phase = phase, (step.deed c).after.session.phase = next at hleads
      cases hleads with
      | stays => exact Nat.le_refl _
      | begins | ends => exact Nat.zero_le _

omit [Directory δ] in
theorem log_release (c : Client (Logged τ) δ α) :
    ∃ result, c.release.transport.log = c.transport.log ++ [.close result] := ⟨_, rfl⟩

omit [Directory δ] in
/-- The last use of a transport in stopping is to close it. -/
theorem log_stop {c : Client (Logged τ) δ α} (h : c.session.isConnected) :
    ∃ log result, ((stop : Operation (Logged τ) δ α Unit).run.run c).2.transport.log =
      c.transport.log ++ (log ++ [.close result]) := by
  let stopped : Client (Logged τ) δ α := { c with session := c.session.stop }
  obtain ⟨log, hlog, -⟩ := cuts_shorter τ Control.closing c.transport
  have hwrite : ((write Control.closing).run.run stopped).2.transport.log =
      c.transport.log ++ log := by
    rw [transport_write]
    exact hlog
  obtain ⟨result, hrelease⟩ := log_release ((write Control.closing).run.run stopped).2
  refine ⟨log, result, ?_⟩
  rw [run_stop h, ← List.append_assoc, ← hwrite]
  exact hrelease

theorem inOrder_deed (step : Step (Logged τ) δ α) (c : Client (Logged τ) δ α) :
    (step.deed c).InOrder := by
  cases step with
  | shared => exact ⟨nofun, fun _ => trivial, nofun⟩
  | call made =>
    refine ⟨?_, fun hover => doesNothing_of_not_connected hover made, ?_⟩
    · intro now hcall hbegun
      obtain rfl : made = .start now := Option.some.inj hcall
      have hrun := run_start_of_not_idle hbegun now
      exact ⟨congrArg Prod.fst hrun, congrArg Prod.snd hrun⟩
    · intro hcall hconnected
      obtain rfl : made = .stop := Option.some.inj hcall
      refine ⟨phase_stop hconnected, ?_, ?_⟩
      · have hafter := congrArg Prod.snd (run_stop (c := c) hconnected)
        rw [show ((Step.call Call.stop).deed c).after = _ from hafter]
        rfl
      · obtain ⟨log, result, hlog⟩ := log_stop hconnected
        refine ⟨result, ?_⟩
        rw [Deed.used_eq hlog, List.getLast?_concat]

/-- **A client lives once.**  Its phases follow one another in their order, and one session begins
at most.  A start that comes too late, a call for a session that is not there, and a stop do what
`Deed.InOrder` says. -/
theorem lifecycle (b : Builder) (credential : Credential) (transport : τ) (directory : δ) (app : α)
    (now : Instant) (steps : List (Step τ δ α)) :
    let c := b.build credential (Logged.start transport) directory app now
    let history := c.history (steps.map Step.logged)
    history.map (Deed.map unlogged) =
        (b.build credential transport directory app now).history steps ∧
      (Phase.idle :: history.map (·.after.session.phase)).IsChain Phase.Leads ∧
      history.countP Deed.isBegin ≤ 1 ∧
      ∀ d ∈ history, d.InOrder := by
  intro c history
  refine ⟨history_unlogged steps c, isChain_phases _ c, countP_isBegin_le _ c, ?_⟩
  have hstep : ∀ step ∈ steps.map Step.logged, ∀ c : Client (Logged τ) δ α, True →
      (step.deed c).InOrder ∧ True := fun step _ c _ => ⟨inOrder_deed step c, trivial⟩
  exact (forall_history (P := fun _ => True) hstep trivial).1

/-- A client is called too early, cannot show its credential at first, is started twice, and stops
while nobody takes its farewell. -/
def hapless : List (Step Pipe FixedDirectory Unit) :=
  [.call (.send (requestPacket .roomCreate)), .limit (some 0), .call (.start ⟨0⟩), .limit none,
    .call (.start ⟨1⟩), .call (.start ⟨2⟩), .limit (some 0), .call .stop,
    .call (.tick ⟨3⟩ ⟨⟨3⟩, default⟩)]

def haplessHistory : List (Deed (Logged Pipe) FixedDirectory Unit) :=
  ((default : Builder).build (Credential.parse "cDpaRHBaVkhCclZraENOZz09") (Logged.start Pipe.empty)
    ⟨some (.ofAddress "localhost" 7000)⟩ () ⟨0⟩).history (hapless.map Step.logged)

theorem lifecycle_hapless :
    haplessHistory.map (·.after.session.phase) =
        [.idle, .idle, .idle, .idle, .connected, .connected, .connected, .stopped, .stopped] ∧
      (Phase.idle :: haplessHistory.map (·.after.session.phase)).IsChain Phase.Leads ∧
      haplessHistory.countP Deed.isBegin = 1 ∧ haplessHistory.countP Deed.isBegin ≤ 1 ∧
      (∃ d ∈ haplessHistory, ¬ d.before.session.isConnected ∧
        (∃ e, d.result = .error e) ∧ d.after = d.before) ∧
      (∃ d ∈ haplessHistory, d.result = .error (.session .alreadyStarted) ∧ d.after = d.before) ∧
      ∃ d ∈ haplessHistory, d.result = .error (.transport (.writeStalled 1)) ∧
        d.after.session.phase = .stopped ∧ d.after.assembler.isIdle ∧
          ∃ result, d.used.getLast? = some (.close result) := by
  obtain ⟨-, hchain, hbegin, hall⟩ := lifecycle (default : Builder)
    (Credential.parse "cDpaRHBaVkhCclZraENOZz09") Pipe.empty
    (⟨some (.ofAddress "localhost" 7000)⟩ : FixedDirectory) () ⟨0⟩ hapless
  have hmem (i : Nat) (h : i < haplessHistory.length) :
      haplessHistory.get ⟨i, h⟩ ∈ haplessHistory := List.get_mem ..
  have hearly : ¬ (haplessHistory.get ⟨0, by decide⟩).before.session.isConnected := by
    decide +kernel
  have hlate : (haplessHistory.get ⟨5, by decide⟩).before.session.phase ≠ .idle := by decide +kernel
  have hconnected : (haplessHistory.get ⟨7, by decide⟩).before.session.isConnected := by
    decide +kernel
  have hrefused : (haplessHistory.get ⟨7, by decide⟩).result =
      .error (.transport (.writeStalled 1)) := by decide +kernel
  refine ⟨by decide +kernel, hchain, by decide +kernel, hbegin, ⟨_, hmem 0 (by decide), hearly, ?_⟩,
    ⟨_, hmem 5 (by decide), ?_⟩, ⟨_, hmem 7 (by decide), hrefused, ?_⟩⟩
  · exact (hall _ (hmem 0 (by decide))).offline hearly
  · exact (hall _ (hmem 5 (by decide))).start ⟨2⟩ rfl hlate
  · exact (hall _ (hmem 7 (by decide))).stop rfl hconnected

end Client

end Multiplayer
