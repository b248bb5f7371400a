import Multiplayer.Proofs.Client.Phases

/-!
# What a client writes

A call writes one frame or none.  The log of the transport tells what has become of it.

* `Client.Says`: what the transport has taken and refused on the way from one client to another.
* `Client.Utters`: the frame of a call is written whole, cut off, or not at all, and what a failure
  leaves of it depends on the transport alone.
* `utters_perform` says this of every call, and `deed_accounts` of every step of a run.
* `accepted_deed`: only a connected client writes, and one that is started.
* `silent_of_stopped`: a client that is stopped never writes again.
* `log_after` and `log_until`: the log of a whole run, and after each of its steps.
-/

namespace Multiplayer

variable {τ δ α β : Type}

/-! ## The frame of a call -/

namespace Call

/-- The frame that a call is to write. -/
def frame? (token : Bytes) : Call α → Option Bytes
  | .start _ => (Control.authenticate token).toOption
  | .tick _ clock => some (Control.heartbeat clock.wall)
  | .stop => some Control.closing
  | .sendRaw bytes => some bytes
  | .send packet => packet.encode.toOption
  | _ => none

/-- Whether a call that succeeds has written its frame.  A tick does so only now and then. -/
def speaks (isConnected : Bool) : Call α → Bool
  | .start _ | .sendRaw _ | .send _ => true
  | .stop => isConnected
  | _ => false

end Call

namespace Client

open Attempt (Keeps)

/-! ## Reading the log -/

/-- On the way from one client to the other, the transport has taken these bytes and refused so many
writes, which are counted. -/
structure Says (c c' : Client (Logged τ) δ α) (bytes : Bytes) (refused : Nat) : Prop where
  log : ∃ log, c'.transport.log = c.transport.log ++ log ∧ accepted log = bytes ∧
    refusals log = refused
  failedSends : c'.session.failedSends = c.session.failedSends + refused
  credential : c'.credential = c.credential

namespace Says

variable {c c' c'' : Client (Logged τ) δ α} {bytes more : Bytes} {refused again : Nat}

theorem of_same (hlog : c'.transport.log = c.transport.log)
    (hfailed : c'.session.failedSends = c.session.failedSends)
    (hcredential : c'.credential = c.credential) : Says c c' [] 0 :=
  ⟨⟨[], hlog.trans (List.append_nil _).symm, rfl, rfl⟩, hfailed, hcredential⟩

theorem trans (h : Says c c' bytes refused) (h' : Says c' c'' more again) :
    Says c c'' (bytes ++ more) (refused + again) := by
  obtain ⟨⟨log, hlog, rfl, rfl⟩, hfailed, hcredential⟩ := h
  obtain ⟨⟨log', hlog', rfl, rfl⟩, hfailed', hcredential'⟩ := h'
  refine ⟨⟨log ++ log', ?_, accepted_append .., refusals_append ..⟩, ?_, ?_⟩
  · rw [hlog', hlog, List.append_assoc]
  · rw [hfailed', hfailed, Nat.add_assoc]
  · rw [hcredential', hcredential]

/-- Nothing was written before. -/
theorem after (h : Says c c' [] 0) (h' : Says c' c'' bytes refused) :
    Says c c'' bytes refused := by
  have hall := h.trans h'
  rwa [List.nil_append, Nat.zero_add] at hall

/-- Nothing was written afterwards. -/
theorem before (h : Says c c' bytes refused) (h' : Says c' c'' [] 0) :
    Says c c'' bytes refused := by
  have hall := h.trans h'
  rwa [List.append_nil, Nat.add_zero] at hall

end Says

/-! ## What is silent -/

section

variable {c c' : Client (Logged τ) δ α}

theorem says_resolve [Directory δ] {result}
    (h : (resolve : Operation (Logged τ) δ α Endpoint).run.run c = (result, c')) :
    Says c c' [] 0 := by
  obtain ⟨directory, rfl⟩ := eq_of_resolve h
  exact .of_same rfl rfl rfl

theorem says_buildTable {result}
    (h : (buildTable : Operation (Logged τ) δ α Unit).run.run c = (result, c')) :
    Says c c' [] 0 := by
  obtain ⟨registry, table, rfl⟩ := eq_of_buildTable h
  exact .of_same rfl rfl rfl

variable [Transport τ]

theorem says_connect {host : String} {port : UInt16} {result}
    (h : (onTransport (Transport.connect host port)).run.run c = (result, c')) :
    Says c c' [] 0 := by
  rw [run_onTransport] at h
  obtain rfl := congrArg Prod.snd h
  exact ⟨⟨_, rfl, rfl, rfl⟩, rfl, rfl⟩

theorem says_update {result} (h : (onTransport Transport.update).run.run c = (result, c')) :
    Says c c' [] 0 := by
  rw [run_onTransport] at h
  obtain rfl := congrArg Prod.snd h
  exact ⟨⟨_, rfl, rfl, rfl⟩, rfl, rfl⟩

theorem says_release (c : Client (Logged τ) δ α) : Says c c.release [] 0 :=
  ⟨⟨_, rfl, rfl, rfl⟩, rfl, rfl⟩

/-- Reading the next event only receives. -/
theorem says_nextEvent {result} (h : c.nextEvent = (result, c')) : Says c c' [] 0 := by
  let P : Inbound (Logged τ) → Prop := fun source =>
    Says c { c with transport := source.transport } [] 0
  have hread : ∀ wanted source, P source → P (ByteSource.read wanted source).2 := by
    intro wanted source hsource
    exact hsource.before ⟨⟨_, rfl, rfl, rfl⟩, rfl, rfl⟩
  have hpoll := Assembler.keeps_poll hread c.assembler
    (s := ⟨c.transport, c.settings.receiveChunk.toNat⟩) (.of_same rfl rfl rfl)
  obtain rfl := congrArg Prod.snd h
  exact ⟨hpoll.log, rfl, rfl⟩

theorem says_handle (clock : Clock) (event : StreamEvent) (c : Client (Logged τ) δ α) :
    Says c (c.handle clock event) [] 0 := by
  cases event with
  | established => exact .of_same rfl rfl rfl
  | clock => exact .of_same rfl rfl rfl
  | frame frame =>
    change Says c (c.dispatch clock.monotonic frame) [] 0
    rw [dispatch_eq]
    exact .of_same rfl rfl rfl
  | teardown =>
    have hstop : Says c { c with session := c.session.stop } [] 0 := by
      refine .of_same rfl ?_ rfl
      change c.session.stop.failedSends = _
      unfold Session.stop
      split <;> rfl
    exact hstop.before (says_release _)

theorem says_pump (clock : Clock) (c : Client (Logged τ) δ α) : Says c (c.pump clock).2 [] 0 := by
  fun_induction pump clock c with
  | case1 c _ e c' hevent => exact says_nextEvent hevent
  | case2 c _ c' hevent => exact says_nextEvent hevent
  | case3 c _ event c' hevent ih =>
    exact (says_nextEvent hevent).after ((says_handle clock event c').after ih)
  | case4 c => exact .of_same rfl rfl rfl

end

/-! ## Uttering a frame -/

/-- What becomes of a frame, with the result of the operation that is to write it and the client
that it leaves. -/
inductive Utters (cut : Cut) (frame? : Option Bytes) (speaks : Bool)
    (c : Client (Logged τ) δ α) : Except ClientError Unit × Client (Logged τ) δ α → Prop
  /-- Nothing is written. -/
  | silent {result c'} (h : Says c c' [] 0) (hresult : result = .ok () → speaks = false) :
    Utters cut frame? speaks c (result, c')
  | whole {frame c'} (hframe : frame? = some frame) (h : Says c c' frame 0) :
    Utters cut frame? speaks c (.ok (), c')
  | cutOff {frame part e c'} (hframe : frame? = some frame) (hpart : cut part frame)
    (h : Says c c' part 1) : Utters cut frame? speaks c (.error e, c')

section

variable {cut : Cut} {frame? : Option Bytes} {speaks : Bool} {c c' c'' : Client (Logged τ) δ α}

theorem Utters.said {result} (h : Utters cut frame? speaks c (result, c')) :
    ∃ bytes refused, Says c c' bytes refused := by
  cases h with
  | silent hsaid => exact ⟨_, _, hsaid⟩
  | whole _ hsaid => exact ⟨_, _, hsaid⟩
  | cutOff _ _ hsaid => exact ⟨_, _, hsaid⟩

/-- Nothing was written before. -/
theorem Utters.after {run} (h : Says c c' [] 0) (h' : Utters cut frame? speaks c' run) :
    Utters cut frame? speaks c run := by
  cases h' with
  | silent hsaid hresult => exact .silent (h.after hsaid) hresult
  | whole hframe hsaid => exact .whole hframe (h.after hsaid)
  | cutOff hframe hpart hsaid => exact .cutOff hframe hpart (h.after hsaid)

/-- Nothing was written afterwards. -/
theorem Utters.before {result} (h : Utters cut frame? speaks c (result, c'))
    (h' : Says c' c'' [] 0) : Utters cut frame? speaks c (result, c'') := by
  cases h with
  | silent hsaid hresult => exact .silent (hsaid.before h') hresult
  | whole hframe hsaid => exact .whole hframe (hsaid.before h')
  | cutOff hframe hpart hsaid => exact .cutOff hframe hpart (hsaid.before h')

theorem utters_onRegistry
    (change : Registry (HandlerState α) → Except RoutingError (Registry (HandlerState α)))
    (c : Client (Logged τ) δ α) : Utters cut none false c ((onRegistry change).run.run c) := by
  rw [run_onRegistry]
  split <;> exact .silent (.of_same rfl rfl rfl) fun _ => rfl

theorem utters_subscribe (add : Subscriptions α → Subscriptions α) (c : Client (Logged τ) δ α) :
    Utters cut none false c ((subscribe add).run.run c) := by
  unfold subscribe
  rw [Attempt.run_bind, Attempt.run_get]
  dsimp only
  split <;> exact .silent (.of_same rfl rfl rfl) fun _ => rfl

variable [Transport τ] (hcuts : Cuts τ cut)

include hcuts

theorem utters_write (frame : Bytes) (c : Client (Logged τ) δ α) :
    Utters cut (some frame) speaks c ((write frame).run.run c) := by
  obtain ⟨log, hlog, hwrites⟩ := hcuts frame c.transport
  rw [run_write]
  rcases hdeliver : (Transport.deliver frame).run.run c.transport with ⟨e | ⟨⟩, transport⟩
  all_goals
    rw [hdeliver] at hlog hwrites
    cases hwrites
  · rename_i htaken hrefused
    exact .cutOff rfl htaken ⟨⟨log, hlog, rfl, hrefused⟩, rfl, rfl⟩
  · rename_i htaken hrefused
    exact .whole rfl ⟨⟨log, hlog, htaken, hrefused⟩, rfl, rfl⟩

theorem utters_sendRaw (bytes : Bytes) (c : Client (Logged τ) δ α) :
    Utters cut (some bytes) true c ((sendRaw bytes).run.run c) := by
  unfold sendRaw
  rw [Attempt.run_bind, Attempt.run_get]
  dsimp only
  split
  · exact utters_write hcuts bytes c
  · exact .silent (.of_same rfl rfl rfl) nofun

theorem utters_send (packet : Packet) (c : Client (Logged τ) δ α) :
    Utters cut packet.encode.toOption true c ((send packet).run.run c) := by
  unfold send encoded
  rw [Attempt.run_bind]
  cases packet.encode with
  | error e => exact .silent (.of_same rfl rfl rfl) nofun
  | ok frame => exact utters_sendRaw hcuts frame c

theorem utters_stop (c : Client (Logged τ) δ α) :
    Utters cut (some Control.closing) c.session.isConnected c
      ((stop : Operation (Logged τ) δ α Unit).run.run c) := by
  by_cases hconnected : c.session.isConnected
  · rw [run_stop hconnected]
    have hstop : Says c { c with session := c.session.stop } [] 0 := by
      refine .of_same rfl ?_ rfl
      change c.session.stop.failedSends = _
      rw [Session.stop, if_pos hconnected]
    exact .after hstop ((utters_write hcuts Control.closing _).before (says_release _))
  · rw [run_stop_of_not_connected hconnected]
    exact .silent (.of_same rfl rfl rfl) fun _ => eq_false_of_ne_true hconnected

theorem utters_beat (now : Instant) (wall : Timestamp) (c : Client (Logged τ) δ α) :
    Utters cut (some (Control.heartbeat wall)) false c ((beat now wall).run.run c) := by
  unfold beat
  rw [Attempt.run_bind, Attempt.run_get]
  dsimp only
  rw [Attempt.run_bind, Attempt.run_set]
  dsimp only
  have hpolled : Says c { c with session.heartbeat := (c.session.heartbeat.poll now).2 } [] 0 :=
    .of_same rfl rfl rfl
  refine .after hpolled ?_
  split
  · exact utters_write hcuts _ _
  · exact .silent (.of_same rfl rfl rfl) fun _ => rfl

theorem utters_tick (now : Instant) (clock : Clock) (c : Client (Logged τ) δ α) :
    Utters cut (some (Control.heartbeat clock.wall)) false c ((tick now clock).run.run c) := by
  have hticks := ticks now clock c
  generalize (tick now clock).run.run c = run at hticks
  cases hticks with
  | offline => exact .silent (.of_same rfl rfl rfl) fun _ => rfl
  | stuck _ hupdate => exact .silent (says_update hupdate) nofun
  | broken _ hupdate => exact .silent ((says_update hupdate).after (says_pump clock _)) nofun
  | ended _ hupdate => exact .silent ((says_update hupdate).after (says_pump clock _)) fun _ => rfl
  | beats _ hupdate =>
    exact .after ((says_update hupdate).after (says_pump clock _)) (utters_beat hcuts ..)

theorem utters_authenticate (c : Client (Logged τ) δ α) :
    Utters cut (Control.authenticate c.credential.token).toOption true c
      ((authenticate : Operation (Logged τ) δ α Unit).run.run c) := by
  rw [run_authenticate]
  cases Control.authenticate c.credential.token with
  | error e => exact .silent (.of_same rfl rfl rfl) nofun
  | ok frame => exact utters_write hcuts frame c

theorem utters_start [Directory δ] (now : Instant) (c : Client (Logged τ) δ α) :
    Utters cut (Control.authenticate c.credential.token).toOption true c
      ((start now).run.run c) := by
  by_cases hidle : c.session.phase = .idle
  · -- The parts before the credential is shown are silent, and so is what comes after it.
    have hshown {c₃ c₄ c₅ : Client (Logged τ) δ α} {result}
        (hshow : authenticate.run.run c₃ = (result, c₄)) (hbefore : Says c c₃ [] 0)
        (hafter : Says c₄ c₅ [] 0) :
        Utters cut (Control.authenticate c.credential.token).toOption true c (result, c₅) := by
      have hutters := utters_authenticate hcuts c₃
      rw [hshow, hbefore.credential] at hutters
      exact .after hbefore (hutters.before hafter)
    have hstarts := starts hidle now
    generalize (start now).run.run c = run at hstarts
    cases hstarts with
    | unresolved hresolve => exact .silent (says_resolve hresolve) nofun
    | unconnected hresolve hconnect =>
      exact .silent ((says_resolve hresolve).after (says_connect hconnect)) nofun
    | unbuilt hresolve hconnect hbuild =>
      have hconnected := (says_resolve hresolve).after (says_connect hconnect)
      exact .silent (hconnected.after (says_buildTable hbuild)) nofun
    | unauthenticated hresolve hconnect hbuild hshow =>
      have hconnected := (says_resolve hresolve).after (says_connect hconnect)
      exact hshown hshow (hconnected.after (says_buildTable hbuild)) (says_release _)
    | begun hresolve hconnect hbuild hshow =>
      have hconnected := (says_resolve hresolve).after (says_connect hconnect)
      exact hshown hshow (hconnected.after (says_buildTable hbuild)) (.of_same rfl rfl rfl)
  · rw [run_start_of_not_idle hidle]
    exact .silent (.of_same rfl rfl rfl) nofun

/-- Every call writes its frame or nothing, and what a failure leaves of the frame is the cut of the
transport. -/
theorem utters_perform [Directory δ] (call : Call α) (c : Client (Logged τ) δ α) :
    Utters cut (call.frame? c.credential.token) (call.speaks c.session.isConnected) c
      (call.perform.run.run c) := by
  cases call with
  | addHandler code handler => exact utters_onRegistry (·.addHandler code handler) c
  | addMiddleware code level middleware =>
    exact utters_onRegistry (·.addMiddleware code level middleware) c
  | onUserMessage command callback =>
    exact utters_subscribe (fun s => { s with messages := s.messages.add command callback }) c
  | onClientError code callback =>
    exact utters_subscribe (fun s => { s with clientErrors := s.clientErrors.add code callback }) c
  | onServerError code callback =>
    exact utters_subscribe (fun s => { s with serverErrors := s.serverErrors.add code callback }) c
  | start now => exact utters_start hcuts now c
  | tick now clock => exact utters_tick hcuts now clock c
  | stop => exact utters_stop hcuts c
  | sendRaw bytes => exact utters_sendRaw hcuts bytes c
  | send packet => exact utters_send hcuts packet c

end

end Client

/-! ## Deeds -/

theorem ok_of_toOption {ε β : Type} {x : Except ε β} {b : β} (h : x.toOption = some b) :
    x = .ok b := by
  cases x with
  | error => cases h
  | ok => exact congrArg Except.ok (Option.some.inj h)

namespace Deed

/-- The frame that a deed is to write. -/
def frame? (d : Deed (Logged τ) δ α) : Option Bytes :=
  d.call?.bind (·.frame? d.before.credential.token)

/-- Whether the deed has written its frame if it has succeeded. -/
def speaks (d : Deed (Logged τ) δ α) : Bool :=
  d.call?.any (·.speaks d.before.session.isConnected)

/-- The log accounts for what a deed was to write. -/
structure Accounts (cut : Cut) (d : Deed (Logged τ) δ α) : Prop where
  log : d.after.transport.log = d.before.transport.log ++ d.used
  failedSends : d.after.session.failedSends = d.before.session.failedSends + refusals d.used
  credential : d.after.credential = d.before.credential
  of_ok : d.result = .ok () → d.accepted = [] ∧ d.speaks = false ∨ d.frame? = some d.accepted
  of_error : ∀ e, d.result = .error e →
    d.accepted = [] ∨ ∃ frame, d.frame? = some frame ∧ cut d.accepted frame

/-- Whoever writes has a frame to write. -/
theorem Accounts.frame {cut : Cut} {d : Deed (Logged τ) δ α} (h : d.Accounts cut)
    (hheard : d.accepted ≠ []) :
    ∃ frame, d.frame? = some frame ∧
      (d.result = .ok () ∧ d.accepted = frame ∨
        (∃ e, d.result = .error e) ∧ cut d.accepted frame) := by
  cases hresult : d.result with
  | ok =>
    rcases h.of_ok hresult with ⟨hsilent, -⟩ | hframe
    · exact absurd hsilent hheard
    · exact ⟨_, hframe, .inl ⟨rfl, rfl⟩⟩
  | error e =>
    rcases h.of_error e hresult with hsilent | ⟨frame, hframe, hcut⟩
    · exact absurd hsilent hheard
    · exact ⟨frame, hframe, .inr ⟨⟨e, rfl⟩, hcut⟩⟩

end Deed

namespace Client

theorem Says.used {d : Deed (Logged τ) δ α} {bytes : Bytes} {refused : Nat}
    (h : Says d.before d.after bytes refused) :
    d.after.transport.log = d.before.transport.log ++ d.used ∧ d.accepted = bytes ∧
      refusals d.used = refused := by
  obtain ⟨log, hlog, htaken, hrefused⟩ := h.log
  obtain rfl : d.used = log := Deed.used_eq hlog
  exact ⟨hlog, htaken, hrefused⟩

theorem Utters.accounts {cut : Cut} {d : Deed (Logged τ) δ α}
    (h : Utters cut d.frame? d.speaks d.before (d.result, d.after)) : d.Accounts cut := by
  generalize hrun : (d.result, d.after) = run at h
  cases h with
  | silent hsaid hresult =>
    cases hrun
    obtain ⟨hlog, htaken, hrefused⟩ := hsaid.used
    refine ⟨hlog, ?_, hsaid.credential, fun hok => .inl ⟨htaken, hresult hok⟩,
      fun _ _ => .inl htaken⟩
    rw [hrefused, hsaid.failedSends]
  | whole hframe hsaid =>
    obtain ⟨hresult, rfl⟩ := Prod.mk.inj hrun
    obtain ⟨hlog, htaken, hrefused⟩ := hsaid.used
    refine ⟨hlog, ?_, hsaid.credential, fun _ => .inr ?_, ?_⟩
    · rw [hrefused, hsaid.failedSends]
    · rw [htaken, hframe]
    · intro e herror
      rw [hresult] at herror
      cases herror
  | cutOff hframe hpart hsaid =>
    obtain ⟨hresult, rfl⟩ := Prod.mk.inj hrun
    obtain ⟨hlog, htaken, hrefused⟩ := hsaid.used
    refine ⟨hlog, ?_, hsaid.credential, ?_, fun _ _ => .inr ⟨_, hframe, ?_⟩⟩
    · rw [hrefused, hsaid.failedSends]
    · intro hok
      rw [hresult] at hok
      cases hok
    · rw [htaken]
      exact hpart

variable [Transport τ] [Directory δ]

/-- The log accounts for every step of a run. -/
theorem deed_accounts {cut : Cut} (hcuts : Cuts τ cut) (step : Step τ δ α)
    (c : Client (Logged τ) δ α) : (step.logged.deed c).Accounts cut := by
  apply Utters.accounts
  cases step with
  | call made => exact utters_perform hcuts made c
  | shared => exact .silent (.of_same rfl rfl rfl) fun _ => rfl

/-- Only a connected client writes, and one that is started while it is idle. -/
theorem accepted_deed (step : Step τ δ α) (c : Client (Logged τ) δ α)
    (h : (step.logged.deed c).accepted ≠ []) :
    c.session.isConnected ∨
      c.session.phase = .idle ∧ ∃ now, (step.logged.deed c).call? = some (.start now) := by
  by_cases hover : c.session.isConnected
  · exact .inl hover
  right
  cases step with
  | shared =>
    obtain ⟨frame, hframe, -⟩ := (deed_accounts (cuts_shorter τ) (.shared ..) c).frame h
    cases hframe
  | call made =>
    have hidles := idles hover made
    generalize hrun : made.perform.run.run c = run at hidles
    have hafter : ((Step.call made).deed c).after = run.2 := congrArg Prod.snd hrun
    have hheard : run.2.transport ≠ c.transport := by
      intro hsame
      rw [← hafter] at hsame
      exact h (Deed.accepted_of_same hsame)
    cases hidles with
    | same => exact absurd rfl hheard
    | ticked => exact absurd rfl hheard
    | registered => exact absurd rfl hheard
    | started now hmade =>
      by_cases hidle : c.session.phase = .idle
      · exact ⟨hidle, now, congrArg some hmade⟩
      · rw [run_start_of_not_idle hidle] at hheard
        exact absurd rfl hheard

/-- Of a client that is stopped, nothing is heard any more. -/
theorem silent_of_stopped {c : Client (Logged τ) δ α} (hstopped : c.session.phase = .stopped)
    (steps : List (Step τ δ α)) : ∀ d ∈ c.history (steps.map Step.logged), d.accepted = [] := by
  have hstep : ∀ step ∈ steps.map Step.logged, ∀ c : Client (Logged τ) δ α,
      c.InPhase (· = .stopped) →
        (step.deed c).accepted = [] ∧ (step.deed c).after.InPhase (· = .stopped) := by
    intro step hmem c hstopped
    obtain ⟨step, -, rfl⟩ := List.mem_map.1 hmem
    have hphase : c.session.phase = .stopped := hstopped
    constructor
    · refine Decidable.byContradiction fun hheard => ?_
      rcases accepted_deed step c hheard with hconnected | ⟨hidle, -⟩
      · simp [Session.isConnected, hphase] at hconnected
      · rw [hphase] at hidle
        cases hidle
    · have hleads := leads_step step.logged c
      rw [hphase] at hleads
      change (step.logged.deed c).after.session.phase = .stopped
      generalize (step.logged.deed c).after.session.phase = next at hleads ⊢
      cases hleads
      rfl
  exact (forall_history hstep hstopped).1

/-- The log of a whole run has what its steps have entered, one after the other, and every refused
write in it was counted. -/
theorem log_after (steps : List (Step τ δ α)) (c : Client (Logged τ) δ α) :
    let used := (c.history (steps.map Step.logged)).flatMap Deed.used
    (c.after (steps.map Step.logged)).transport.log = c.transport.log ++ used ∧
      (c.after (steps.map Step.logged)).session.failedSends =
        c.session.failedSends + refusals used := by
  induction steps generalizing c with
  | nil => exact ⟨(List.append_nil _).symm, rfl⟩
  | cons step steps ih =>
    have haccounts := deed_accounts (cuts_shorter τ) step c
    obtain ⟨hlog, hfailed⟩ := ih (step.logged.deed c).after
    simp only [List.map_cons, after_cons, history, List.flatMap_cons, refusals_append]
    rw [hlog, hfailed, haccounts.log, haccounts.failedSends]
    exact ⟨List.append_assoc .., Nat.add_assoc ..⟩

/-- After each step of a run, the log has what this step and those before it have entered. -/
theorem log_until {steps : List (Step τ δ α)} {c : Client (Logged τ) δ α}
    {past : List (Deed (Logged τ) δ α)} {d : Deed (Logged τ) δ α}
    (hpast : past ++ [d] <+: c.history (steps.map Step.logged)) :
    d.after.transport.log = c.transport.log ++ (past ++ [d]).flatMap Deed.used := by
  induction steps generalizing c past with
  | nil => simp [history] at hpast
  | cons step steps ih =>
    have haccounts := deed_accounts (cuts_shorter τ) step c
    rw [List.map_cons, history] at hpast
    cases past with
    | nil =>
      obtain ⟨rfl, -⟩ := List.cons_prefix_cons.1 hpast
      rw [List.nil_append, List.flatMap_singleton]
      exact haccounts.log
    | cons e past =>
      obtain ⟨rfl, hlater⟩ := List.cons_prefix_cons.1 hpast
      rw [ih hlater, haccounts.log, List.cons_append, List.flatMap_cons, List.append_assoc]
      rfl

end Client

end Multiplayer
