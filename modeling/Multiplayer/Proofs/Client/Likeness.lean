import Multiplayer.Proofs.Client.Ordering

/-!
# Clients with callbacks of the same effect

Nothing that a client does depends on whether a callback fails.  So two clients whose callbacks do
the same to the state, each to a state of its own kind, stay alike whatever is called.

* `SameEffect` relates callbacks by what they do; their results may differ.
* `Client.Like` relates clients, and `Call.Like` and `Step.Like` what happens to them.
* `relates_perform`: the same call of two such clients has the same result, and leaves them alike.
* `history_like` carries this to whole runs.
-/

namespace Multiplayer

variable {σ σ' τ δ α α' β : Type}

/-! ## Callbacks -/

/-- What the callbacks do to related states is related, whether they fail or not. -/
def SameEffect (R : σ → σ' → Prop) (f : Callback σ β) (f' : Callback σ' β) : Prop :=
  ∀ argument s s', R s s' → R ((f argument).run.run s).2 ((f' argument).run.run s').2

theorem serve_like {R : σ → σ' → Prop} {callbacks : List (Callback σ β)}
    {callbacks' : List (Callback σ' β)} (h : List.Forall₂ (SameEffect R) callbacks callbacks')
    (argument : β) {s : σ} {s' : σ'} (hs : R s s') :
    R (serve callbacks argument s) (serve callbacks' argument s') := by
  induction h generalizing s s' with
  | nil => exact hs
  | cons hfirst _ ih => exact ih (hfirst argument s s' hs)

/-- The states of handlers agree but for those of the application, which are related. -/
structure HandlerState.Like (ρ : α → α' → Prop) (s : HandlerState α) (s' : HandlerState α') :
    Prop where
  lobby : s.lobby = s'.lobby
  now : s.now = s'.now
  app : ρ s.app s'.app

/-- One call of two clients: the same one, or the registration of callbacks of the same effect. -/
inductive Call.Like (ρ : α → α' → Prop) : Call α → Call α' → Prop where
  | addHandler (code) {f f'} (h : SameEffect (HandlerState.Like ρ) f f') :
    Like ρ (.addHandler code f) (.addHandler code f')
  | onUserMessage (command) {f f'} (h : SameEffect (HandlerState.Like ρ) f f') :
    Like ρ (.onUserMessage command f) (.onUserMessage command f')
  | onClientError (code) {f f'} (h : SameEffect (HandlerState.Like ρ) f f') :
    Like ρ (.onClientError code f) (.onClientError code f')
  | onServerError (code) {f f'} (h : SameEffect (HandlerState.Like ρ) f f') :
    Like ρ (.onServerError code f) (.onServerError code f')
  | start (now) : Like ρ (.start now) (.start now)
  | tick (now clock) : Like ρ (.tick now clock) (.tick now clock)
  | stop : Like ρ .stop .stop
  | sendRaw (bytes) : Like ρ (.sendRaw bytes) (.sendRaw bytes)
  | send (packet) : Like ρ (.send packet) (.send packet)

namespace Callbacks

variable {ρ : α → α' → Prop}

/-- Callbacks of the same effects for each code, in the same order. -/
structure Like (ρ : α → α' → Prop) (k : Callbacks α) (k' : Callbacks α') : Prop where
  handlers : ∀ code,
    List.Forall₂ (SameEffect (HandlerState.Like ρ)) (k.handlers code) (k'.handlers code)
  messages : ∀ command,
    List.Forall₂ (SameEffect (HandlerState.Like ρ)) (k.messages command) (k'.messages command)
  errors : ∀ source code,
    List.Forall₂ (SameEffect (HandlerState.Like ρ)) (k.errors source code) (k'.errors source code)

theorem like_addAt {R : σ → σ' → Prop} {lists : UInt16 → List (Callback σ β)}
    {lists' : UInt16 → List (Callback σ' β)}
    (h : ∀ code, List.Forall₂ (SameEffect R) (lists code) (lists' code)) (code : UInt16)
    {f : Callback σ β} {f' : Callback σ' β} (hf : SameEffect R f f') (other : UInt16) :
    List.Forall₂ (SameEffect R) (addAt code f lists other) (addAt code f' lists' other) := by
  rw [addAt, addAt, Function.update_apply, Function.update_apply]
  split
  · exact List.rel_append (h code) (.cons hf .nil)
  · exact h other

namespace Like

variable {k : Callbacks α} {k' : Callbacks α'}

theorem register (h : k.Like ρ k') {made : Call α} {made' : Call α'} (hmade : made.Like ρ made') :
    (k.register made).Like ρ (k'.register made') := by
  cases hmade with
  | addHandler code hf => exact { h with handlers := like_addAt h.handlers code hf }
  | onUserMessage command hf => exact { h with messages := like_addAt h.messages command hf }
  | onClientError code hf =>
    refine { h with errors := fun source => ?_ }
    cases source with
    | client => exact like_addAt (h.errors .client) code hf
    | server => exact h.errors .server
  | onServerError code hf =>
    refine { h with errors := fun source => ?_ }
    cases source with
    | client => exact h.errors .client
    | server => exact like_addAt (h.errors .server) code hf
  | start | tick | stop | sendRaw | send => exact h

theorem builtin (h : k.Like ρ k') (frame : Frame) {s : HandlerState α} {s' : HandlerState α'}
    (hs : s.Like ρ s') : (k.builtin frame s).Like ρ (k'.builtin frame s') := by
  unfold Callbacks.builtin
  split
  · split
    · exact serve_like (h.messages _) _ hs
    · exact hs
  · split
    · exact serve_like (h.messages _) _ hs
    · exact hs
  · split
    · exact serve_like (h.errors _ _) _ hs
    · exact hs
  · split
    · exact serve_like (h.errors _ _) _ hs
    · exact hs
  · rw [hs.now]
    split
    · exact ⟨by rw [hs.lobby], rfl, hs.app⟩
    · exact hs
  · exact hs

theorem frame (h : k.Like ρ k') (now : Instant) (frame : Frame) {s : HandlerState α}
    {s' : HandlerState α'} (hs : s.Like ρ s') :
    (k.frame now frame s).Like ρ (k'.frame now frame s') := by
  have hbegun : ({ s with lobby := s.lobby.beginEvent frame.code, now } : HandlerState α).Like ρ
      { s' with lobby := s'.lobby.beginEvent frame.code, now } :=
    ⟨by rw [hs.lobby], rfl, hs.app⟩
  refine serve_like (h.handlers _) _ ?_
  split
  · exact h.builtin frame hbegun
  · exact hbegun

end Like

end Callbacks

/-! ## Clients -/

namespace Client

open Attempt (Relates)

variable {ρ : α → α' → Prop}

/-- The clients agree but for their callbacks, which have the same effects, and for the states of
the application, which are related.  Neither has middleware. -/
structure Like (ρ : α → α' → Prop) (c : Client τ δ α) (c' : Client τ δ α') : Prop where
  settings : c.settings = c'.settings
  credential : c.credential = c'.credential
  transport : c.transport = c'.transport
  directory : c.directory = c'.directory
  assembler : c.assembler = c'.assembler
  session : c.session = c'.session
  state : c.state.Like ρ c'.state
  isSealed : c.registry.isSealed = c'.registry.isSealed
  table : c.table.isSome = c'.table.isSome
  callbacks : c.callbacks.Like ρ c'.callbacks
  tabled : c.Registered Tabled ∧ c'.Registered Tabled
  plain : c.registry.middleware = [] ∧ c'.registry.middleware = []

/-! ## Parts -/

theorem relates_onTransport (link : Link τ β) :
    Relates (Like ρ) (onTransport link : Operation τ δ α β) (onTransport link) := by
  intro c c' h
  rw [run_onTransport, run_onTransport, h.transport]
  exact ⟨rfl, { h with transport := rfl }⟩

theorem relates_onDirectory (query : Attempt SessionError δ β) :
    Relates (Like ρ) (onDirectory query : Operation τ δ α β) (onDirectory query) := by
  intro c c' h
  change ((query.run.run c.directory).1.mapError _ = (query.run.run c'.directory).1.mapError _) ∧
    Like ρ { c with directory := (query.run.run c.directory).2 }
      { c' with directory := (query.run.run c'.directory).2 }
  rw [h.directory]
  exact ⟨rfl, { h with directory := rfl }⟩

theorem relates_onSession (change : Session → Session) :
    Relates (Like ρ) (onSession change : Operation τ δ α Unit) (onSession change) :=
  Relates.modify fun _ _ h => { h with session := congrArg change h.session }

theorem relates_beginSession :
    Relates (Like ρ) (beginSession : Operation τ δ α Unit) beginSession := by
  refine Relates.get_bind fun c c' h => ?_
  rw [h.session]
  split
  · exact ⟨rfl, { h with session := rfl }⟩
  · exact ⟨rfl, h⟩

theorem relates_resolve [Directory δ] :
    Relates (Like ρ) (resolve : Operation τ δ α Endpoint) resolve := by
  refine Relates.get_bind fun c c' h => ?_
  dsimp only
  rw [h.credential]
  split
  · exact ⟨rfl, h⟩
  · refine (relates_onDirectory _).bind (fun endpoint? => ?_) c c' h
    split
    · exact .pure _
    · exact .throw _

/-- Both tables can be built, if they have not been. -/
theorem relates_buildTable :
    Relates (Like ρ) (buildTable : Operation τ δ α Unit) buildTable := by
  intro c c' h
  obtain ⟨d, hrun, htabled, hsealed, hhandlers, hmiddleware⟩ := tabled_buildTable h.tabled.1
  obtain ⟨d', hrun', htabled', hsealed', hhandlers', hmiddleware'⟩ := tabled_buildTable h.tabled.2
  have htable := table_of_buildTable hrun
  have htable' := table_of_buildTable hrun'
  obtain ⟨registry, table, rfl⟩ := eq_of_buildTable hrun
  obtain ⟨registry', table', rfl⟩ := eq_of_buildTable hrun'
  have hcallbacks : registry.callbacks = c.registry.callbacks := by
    unfold Registry.callbacks
    rw [hhandlers]
  have hcallbacks' : registry'.callbacks = c'.registry.callbacks := by
    unfold Registry.callbacks
    rw [hhandlers']
  rw [hrun, hrun']
  refine ⟨rfl, { h with
    isSealed := hsealed.trans hsealed'.symm
    table := htable.trans htable'.symm
    callbacks := ⟨?_, h.callbacks.messages, h.callbacks.errors⟩
    tabled := ⟨htabled, htabled'⟩
    plain := ⟨hmiddleware.trans h.plain.1, hmiddleware'.trans h.plain.2⟩ }⟩
  change ∀ code, List.Forall₂ _ (registry.callbacks code) (registry'.callbacks code)
  rw [hcallbacks, hcallbacks']
  exact h.callbacks.handlers

theorem Like.dispatch {c : Client τ δ α} {c' : Client τ δ α'} (h : c.Like ρ c') (now : Instant)
    (frame : Frame) : (c.dispatch now frame).Like ρ (c'.dispatch now frame) := by
  have hstate : (c.dispatch now frame).state.Like ρ (c'.dispatch now frame).state := by
    have hsome := h.table
    obtain ⟨htabled, htabled'⟩ := h.tabled
    unfold Registered at htabled htabled'
    cases htable : c.table with
    | none =>
      rw [htable, Option.isSome_none, eq_comm, Option.isSome_eq_false_iff,
        Option.isNone_iff_eq_none] at hsome
      rw [dispatch_eq, dispatch_eq, htable, hsome]
      exact h.state
    | some table =>
      rw [htable, Option.isSome_some, eq_comm, Option.isSome_iff_exists] at hsome
      obtain ⟨table', htable'⟩ := hsome
      rw [htable] at htabled
      rw [htable'] at htabled'
      rw [state_dispatch htabled htable h.plain.1, state_dispatch htabled' htable' h.plain.2]
      exact h.callbacks.frame now frame h.state
  rw [dispatch_eq, dispatch_eq] at hstate ⊢
  exact { h with state := hstate }

variable [Transport τ]

theorem relates_write (bytes : Bytes) :
    Relates (Like ρ) (write bytes : Operation τ δ α Unit) (write bytes) :=
  (relates_onTransport _).tryCatch fun e => (relates_onSession _).bind fun _ => .throw e

theorem Like.release {c : Client τ δ α} {c' : Client τ δ α'} (h : c.Like ρ c') :
    c.release.Like ρ c'.release :=
  { h with
    assembler := by rw [Client.release, Client.release, h.assembler]
    transport := by rw [Client.release, Client.release, h.transport] }

theorem relates_orRelease {operation : Operation τ δ α Unit} {operation' : Operation τ δ α' Unit}
    (h : Relates (Like ρ) operation operation') :
    Relates (Like ρ) (orRelease operation) (orRelease operation') :=
  h.tryCatch fun e => (Relates.modify fun _ _ h => h.release).bind fun _ => .throw e

theorem relates_authenticate :
    Relates (Like ρ) (authenticate : Operation τ δ α Unit) authenticate := by
  refine Relates.get_bind fun c c' h => ?_
  rw [h.credential]
  exact (Relates.ofExcept _).bind (fun _ => relates_write _) c c' h

theorem relates_start [Directory δ] (now : Instant) :
    Relates (Like ρ) (start now : Operation τ δ α Unit) (start now) := by
  refine Relates.get_bind fun c c' h => ?_
  rw [h.session, h.settings]
  split
  · exact ⟨rfl, h⟩
  · refine (relates_resolve.bind fun endpoint => ?_) c c' h
    refine (relates_onTransport _).bind fun _ => relates_buildTable.bind fun _ => ?_
    exact (relates_orRelease relates_authenticate).bind fun _ =>
      relates_beginSession.bind fun _ => relates_onSession _

theorem relates_sendRaw (bytes : Bytes) :
    Relates (Like ρ) (sendRaw bytes : Operation τ δ α Unit) (sendRaw bytes) := by
  refine Relates.get_bind fun c c' h => ?_
  rw [h.session]
  split
  · exact relates_write bytes c c' h
  · exact ⟨rfl, h⟩

theorem relates_send (packet : Packet) :
    Relates (Like ρ) (send packet : Operation τ δ α Unit) (send packet) :=
  (Relates.ofExcept _).bind fun _ => relates_sendRaw _

theorem relates_stop : Relates (Like ρ) (stop : Operation τ δ α Unit) stop := by
  refine Relates.get_bind fun c c' h => ?_
  rw [h.session]
  split
  · refine ((relates_onSession _).bind fun _ => ?_) c c' h
    exact (relates_orRelease (relates_write _)).bind fun _ =>
      Relates.modify fun _ _ h => h.release
  · exact ⟨rfl, h⟩

theorem relates_beat (now : Instant) (wall : Timestamp) :
    Relates (Like ρ) (beat now wall : Operation τ δ α Unit) (beat now wall) := by
  refine Relates.get_bind fun c c' h => ?_
  rw [h.session]
  rcases c'.session.heartbeat.poll now with ⟨due, heartbeat⟩
  have hset : Relates (Like ρ)
      (set { c with session := { c'.session with heartbeat } } : Operation τ δ α Unit)
      (set { c' with session := { c'.session with heartbeat } }) :=
    fun _ _ _ => ⟨rfl, { h with session := rfl }⟩
  refine hset.bind (fun _ => ?_) c c' h
  split
  · exact relates_write _
  · exact .pure _

/-! ## Ticks -/

theorem Like.handle {c : Client τ δ α} {c' : Client τ δ α'} (h : c.Like ρ c') (clock : Clock)
    (event : StreamEvent) : (c.handle clock event).Like ρ (c'.handle clock event) := by
  cases event with
  | established keepAlive session =>
    exact { h with
      session := congrArg (·.establish session keepAlive) h.session
      state := ⟨congrArg (·.identify session) h.state.lobby, h.state.now, h.state.app⟩ }
  | clock sentAt =>
    exact { h with session := congrArg (·.recordLatency sentAt clock.wall) h.session }
  | teardown =>
    have hstopped : ({ c with session := c.session.stop } : Client τ δ α).Like ρ
        { c' with session := c'.session.stop } :=
      { h with session := congrArg (·.stop) h.session }
    exact hstopped.release
  | frame frame => exact h.dispatch clock.monotonic frame

/-- Both read the same event. -/
theorem Like.nextEvent {c d : Client τ δ α} {c' : Client τ δ α'} (h : c.Like ρ c') {result}
    (hread : c.nextEvent = (result, d)) :
    ∃ d', c'.nextEvent = (result, d') ∧ d.Like ρ d' := by
  have hpoll : c.assembler.poll (⟨c.transport, c.settings.receiveChunk.toNat⟩ : Inbound τ) =
      c'.assembler.poll ⟨c'.transport, c'.settings.receiveChunk.toNat⟩ := by
    rw [h.assembler, h.transport, h.settings]
  obtain ⟨rfl, rfl⟩ := Prod.mk.inj hread
  refine ⟨_, Prod.ext (congrArg (·.1) hpoll.symm) rfl, { h with
    assembler := congrArg (·.2.1) hpoll
    transport := congrArg (·.2.2.transport) hpoll }⟩

theorem Like.pump {c : Client τ δ α} {c' : Client τ δ α'} (h : c.Like ρ c') (clock : Clock) :
    (c.pump clock).1 = (c'.pump clock).1 ∧ (c.pump clock).2.Like ρ (c'.pump clock).2 := by
  fun_induction Client.pump clock c generalizing c' with
  | case1 c hconnected e d hevent =>
    obtain ⟨d', hevent', hlike⟩ := h.nextEvent hevent
    rw [h.session] at hconnected
    rw [Client.pump, dif_pos hconnected, hevent']
    exact ⟨rfl, hlike⟩
  | case2 c hconnected d hevent =>
    obtain ⟨d', hevent', hlike⟩ := h.nextEvent hevent
    rw [h.session] at hconnected
    rw [Client.pump, dif_pos hconnected, hevent']
    exact ⟨rfl, hlike⟩
  | case3 c hconnected event d hevent ih =>
    obtain ⟨d', hevent', hlike⟩ := h.nextEvent hevent
    rw [h.session] at hconnected
    have hpump : c'.pump clock = (d'.handle clock event).pump clock := by
      rw [Client.pump, dif_pos hconnected, hevent']
    rw [hpump]
    exact ih (hlike.handle clock event)
  | case4 c hover =>
    rw [h.session] at hover
    rw [Client.pump, dif_neg hover]
    exact ⟨rfl, h⟩

theorem relates_tick (now : Instant) (clock : Clock) :
    Relates (Like ρ) (tick now clock : Operation τ δ α Unit) (tick now clock) := by
  have harrived : Relates (Like ρ) (handleArrived clock : Operation τ δ α Unit)
      (handleArrived clock) := by
    intro c c' h
    obtain ⟨hresult, hlike⟩ := h.pump clock
    exact ⟨congrArg (Except.mapError ClientError.transport) hresult, hlike⟩
  refine Relates.get_bind fun c c' h => ?_
  rw [h.session]
  split
  · refine ((relates_onTransport _).bind fun _ => harrived.bind fun _ => ?_) c c' h
    refine Relates.get_bind fun c c' h => ?_
    rw [h.session]
    split
    · exact relates_beat _ _ c c' h
    · exact ⟨rfl, h⟩
  · exact relates_onSession _ c c' h

/-! ## Calls -/

variable [Directory δ]

/-- Callbacks of the same effects are registered alike. -/
theorem relates_registration {made : Call α} {made' : Call α'} (h : made.Like ρ made')
    (hregistration : made.isRegistration) :
    Relates (Like ρ) (made.perform : Operation τ δ α Unit) made'.perform := by
  have hplain : ¬ made.isMiddleware := by cases h <;> exact Bool.false_ne_true
  have hplain' : ¬ made'.isMiddleware := by cases h <;> exact Bool.false_ne_true
  have hregistration' : made'.isRegistration := by
    cases h <;> first | rfl | cases hregistration
  intro c c' hc
  have htabled := tabled_perform made c hc.tabled.1
  have htabled' := tabled_perform made' c' hc.tabled.2
  have henrols := enrols hregistration hplain c
  have henrols' := enrols hregistration' hplain' c'
  generalize made.perform.run.run c = run at htabled henrols ⊢
  generalize made'.perform.run.run c' = run' at htabled' henrols' ⊢
  have hsealed := hc.isSealed
  cases henrols with
  | refused hseal =>
    cases henrols' with
    | refused => exact ⟨rfl, hc⟩
    | accepted hopen' => rw [hseal, hopen'] at hsealed; cases hsealed
  | accepted hopen hregister =>
    cases henrols' with
    | refused hseal' => rw [hopen, hseal'] at hsealed; cases hsealed
    | accepted _ hregister' =>
      refine ⟨rfl, { hc with callbacks := ?_, tabled := ⟨htabled, htabled'⟩ }⟩
      rw [hregister, hregister']
      exact hc.callbacks.register h

theorem relates_perform {made : Call α} {made' : Call α'} (h : made.Like ρ made') :
    Relates (Like ρ) (made.perform : Operation τ δ α Unit) made'.perform := by
  cases h with
  | start now => exact relates_start now
  | tick now clock => exact relates_tick now clock
  | stop => exact relates_stop
  | sendRaw bytes => exact relates_sendRaw bytes
  | send packet => exact relates_send packet
  | addHandler code h => exact relates_registration (.addHandler code h) rfl
  | onUserMessage command h => exact relates_registration (.onUserMessage command h) rfl
  | onClientError code h => exact relates_registration (.onClientError code h) rfl
  | onServerError code h => exact relates_registration (.onServerError code h) rfl

end Client

/-! ## Runs -/

/-- One step of two runs. -/
inductive Step.Like (ρ : α → α' → Prop) : Step τ δ α → Step τ δ α' → Prop where
  | call {made made'} (h : made.Like ρ made') : Like ρ (.call made) (.call made')
  | shared (transport directory) {state state'}
    (h : ∀ s s', HandlerState.Like ρ s s' → HandlerState.Like ρ (state s) (state' s')) :
    Like ρ (.shared transport directory state) (.shared transport directory state')

/-- What was called had the same result, and the clients were alike before and after it. -/
structure Deed.Like (ρ : α → α' → Prop) (d : Deed τ δ α) (d' : Deed τ δ α') : Prop where
  before : d.before.Like ρ d'.before
  result : d.result = d'.result
  after : d.after.Like ρ d'.after

namespace Client

variable {ρ : α → α' → Prop}

theorem like_build (b : Builder) (credential : Credential) (transport : τ) (directory : δ)
    (now : Instant) {app : α} {app' : α'} (h : ρ app app') :
    (b.build credential transport directory app now).Like ρ
      (b.build credential transport directory app' now) where
  settings := rfl
  credential := rfl
  transport := rfl
  directory := rfl
  assembler := rfl
  session := rfl
  state := ⟨rfl, rfl, h⟩
  isSealed := rfl
  table := rfl
  callbacks := by
    rw [callbacks_build, callbacks_build]
    exact ⟨fun _ => .nil, fun _ => .nil, fun _ _ => .nil⟩
  tabled := ⟨tabled_build .., tabled_build ..⟩
  plain := ⟨rfl, rfl⟩

variable [Transport τ] [Directory δ]

theorem relates_take {step : Step τ δ α} {step' : Step τ δ α'} (h : step.Like ρ step') :
    Attempt.Relates (Like ρ) step.take step'.take := by
  cases h with
  | call h => exact relates_perform h
  | shared transport directory h =>
    exact Attempt.Relates.modify fun c c' hc => { hc with
      transport := congrArg transport hc.transport
      directory := congrArg directory hc.directory
      state := h _ _ hc.state }

/-- Runs that are alike step by step have histories that are alike, and leave clients that are. -/
theorem history_like {steps : List (Step τ δ α)} {steps' : List (Step τ δ α')}
    (h : List.Forall₂ (Step.Like ρ) steps steps') {c : Client τ δ α} {c' : Client τ δ α'}
    (hc : c.Like ρ c') :
    List.Forall₂ (Deed.Like ρ) (c.history steps) (c'.history steps') ∧
      (c.after steps).Like ρ (c'.after steps') := by
  induction h generalizing c c' with
  | nil => exact ⟨.nil, hc⟩
  | cons hstep _ ih =>
    obtain ⟨hresult, hafter⟩ := relates_take hstep c c' hc
    obtain ⟨hhistory, hlast⟩ := ih hafter
    exact ⟨.cons ⟨hc, hresult, hafter⟩ hhistory, hlast⟩

end Client

end Multiplayer
