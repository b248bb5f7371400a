import Multiplayer.Proofs.Client.Run
import Multiplayer.Proofs.Client.Wiring
import Multiplayer.Proofs.Routing.FanOut

/-!
# What happens within one frame

Without middleware, what a frame does to the state is said without tables: the event is begun, then
comes what is built in if the session defines the data, and then the handlers of the code.  Each
list of callbacks is run through from its beginning to its end, whichever of them fail.

* `Callbacks` is what an application has registered, in the order of registration, and
  `Callbacks.frame` what a frame does with it.
* `state_dispatch` says that this is what a client does; `callbacks_after` says that a run registers
  the callbacks of the registrations that were accepted.
-/

namespace Multiplayer

variable {σ τ δ α β : Type}

/-! ## The callbacks of a code -/

/-- The callbacks of a code, in the order in which they were added. -/
def Routes.callbacks (routes : Routes σ β) (code : UInt16) : List (Callback σ β) :=
  routes.table[code]?.getD []

theorem Routes.state_invoke (routes : Routes σ β) (code : UInt16) (argument : β) (s : σ) :
    (((routes.invoke? code argument).getD (return ())).run.run s).2 =
      serve (routes.callbacks code) argument s := by
  unfold Routes.invoke? Routes.callbacks
  cases routes.table[code]? with
  | none => rfl
  | some callbacks => exact state_runAll callbacks argument s

/-- The handlers of a code, in the order in which they were registered. -/
def Registry.callbacks (r : Registry σ) (code : UInt16) : List (Handler σ) :=
  r.handlers[code]?.getD []

/-! ## What an application has registered -/

/-- The callbacks of an application for each code, in the order of registration. -/
@[ext] structure Callbacks (α : Type) where
  handlers : UInt16 → List (Handler (HandlerState α))
  messages : UInt16 → List (Callback (HandlerState α) UserMessage)
  errors : ErrorSource → UInt16 → List (Callback (HandlerState α) ErrorReport)

/-- The lists of callbacks with one more callback for a code. -/
def addAt (code : UInt16) (callback : Callback σ β) (lists : UInt16 → List (Callback σ β)) :
    UInt16 → List (Callback σ β) :=
  Function.update lists code (lists code ++ [callback])

theorem Routes.callbacks_add (routes : Routes σ β) (code : UInt16) (callback : Callback σ β) :
    (routes.add code callback).callbacks = addAt code callback routes.callbacks := by
  funext other
  rw [Routes.callbacks, Routes.getElem?_add, addAt, Function.update_apply]
  by_cases hcode : code = other
  · rw [if_pos hcode, if_pos hcode.symm]
    rfl
  · rw [if_neg hcode, if_neg (Ne.symm hcode)]
    rfl

theorem Registry.callbacks_addTo (r : Registry σ) (code : UInt16) (handler : Handler σ) :
    ({ r with handlers := addTo r.handlers code handler } : Registry σ).callbacks =
      addAt code handler r.callbacks := by
  funext other
  rw [Registry.callbacks, getElem?_addTo, addAt, Function.update_apply]
  by_cases hcode : code = other
  · rw [if_pos hcode, if_pos hcode.symm]
    rfl
  · rw [if_neg hcode, if_neg (Ne.symm hcode)]
    rfl

namespace Callbacks

def empty : Callbacks α := ⟨fun _ => [], fun _ => [], fun _ _ => []⟩

/-- The callbacks after one more registration has been accepted.  Other calls add none. -/
def register (k : Callbacks α) : Call α → Callbacks α
  | .addHandler code handler => { k with handlers := addAt code handler k.handlers }
  | .onUserMessage command callback => { k with messages := addAt command callback k.messages }
  | .onClientError code callback =>
    { k with errors := Function.update k.errors .client (addAt code callback (k.errors .client)) }
  | .onServerError code callback =>
    { k with errors := Function.update k.errors .server (addAt code callback (k.errors .server)) }
  | _ => k

/-- What the built-in handler of a frame does: to the lobby what a notification says, or whatever
the routes of the command that a user message has do, or those of the side and code of an error
report.  A frame that cannot be read does nothing. -/
def builtin (k : Callbacks α) (frame : Frame) (s : HandlerState α) : HandlerState α :=
  match Event.ofCode? frame.code with
  | some .onUserMessage | some .onRoomUserMessage =>
    match UserMessage.ofFrame frame with
    | .ok message => serve (k.messages message.command) message s
    | .error _ => s
  | some .onErrorClient =>
    match ErrorReport.ofFrame .client frame with
    | .ok report => serve (k.errors .client report.code) report s
    | .error _ => s
  | some .onErrorServer =>
    match ErrorReport.ofFrame .server frame with
    | .ok report => serve (k.errors .server report.code) report s
    | .error _ => s
  | some event =>
    match (Notification.decoder? s.now event).map (frame.read ·) with
    | some (.ok notification) => { s with lobby := notification.apply s.lobby }
    | _ => s
  | _ => s

/-- What a frame does: the event is begun, then what is built in comes if the session defines the
data, and then the handlers of the code. -/
def frame (k : Callbacks α) (now : Instant) (frame : Frame) (s : HandlerState α) : HandlerState α :=
  let begun := { s with lobby := s.lobby.beginEvent frame.code, now }
  serve (k.handlers frame.code) frame (if frame.isBuiltin then k.builtin frame begun else begun)

end Callbacks

namespace Client

/-- What has been registered with a client. -/
def callbacks (c : Client τ δ α) : Callbacks α where
  handlers := c.registry.callbacks
  messages := c.subscriptions.messages.callbacks
  errors source := (c.subscriptions.errors source).callbacks

theorem callbacks_build (b : Builder) (credential : Credential) (transport : τ) (directory : δ)
    (app : α) (now : Instant) :
    (b.build credential transport directory app now).callbacks = .empty := by
  have hnone {V : Type} (code : UInt16) :
      ((∅ : Std.ExtTreeMap UInt16 (List V))[code]?).getD [] = [] := by
    rw [Std.ExtTreeMap.getElem?_empty]
    rfl
  refine Callbacks.ext (funext hnone) (funext hnone) (funext fun source => ?_)
  cases source <;> exact funext hnone

end Client

/-! ## One frame -/

namespace Reaction

theorem state_notify (event : Event) (frame : Frame) (s : HandlerState α) :
    ((notify event frame).run.run s).2 =
      match (Notification.decoder? s.now event).map (frame.read ·) with
      | some (.ok notification) => { s with lobby := notification.apply s.lobby }
      | _ => s := by
  unfold notify
  rw [Attempt.run_bind, Attempt.run_get]
  dsimp only
  cases Notification.decoder? s.now event with
  | none => rfl
  | some decoder =>
    dsimp only [Option.map_some]
    rw [Attempt.run_bind]
    cases frame.read decoder <;> rfl

theorem state_forward (subscriptions : Subscriptions α) (frame : Frame) (s : HandlerState α) :
    ((forward subscriptions frame).run.run s).2 =
      match UserMessage.ofFrame frame with
      | .ok message => serve (subscriptions.messages.callbacks message.command) message s
      | .error _ => s := by
  unfold forward
  rw [Attempt.run_bind]
  cases UserMessage.ofFrame frame with
  | error e => rfl
  | ok message => exact Routes.state_invoke ..

theorem state_report (subscriptions : Subscriptions α) (source : ErrorSource) (frame : Frame)
    (s : HandlerState α) :
    ((report subscriptions source frame).run.run s).2 =
      match ErrorReport.ofFrame source frame with
      | .ok report => serve ((subscriptions.errors source).callbacks report.code) report s
      | .error _ => s := by
  unfold report
  rw [Attempt.run_bind]
  cases ErrorReport.ofFrame source frame with
  | error e => rfl
  | ok report => exact Routes.state_invoke ..

end Reaction

namespace Client

/-- The built-in handlers do what `Callbacks.builtin` says. -/
theorem settle_builtin {c : Client τ δ α} {table : Table (HandlerState α)}
    (htabled : Tabled c.registry c.subscriptions (some table)) (frame : Frame)
    (s : HandlerState α) :
    settle (table.dispatchBuiltin? frame) s = c.callbacks.builtin frame s := by
  rw [Table.dispatchBuiltin?, htabled.builtin?, Callbacks.builtin]
  cases hevent : Event.ofCode? frame.code with
  | none =>
    have hnone : (Reaction.all c.subscriptions).find? (·.1.code = frame.code) = none := by
      rw [List.find?_eq_none]
      intro entry _ hcode
      rw [← of_decide_eq_true hcode, Event.ofCode?_code] at hevent
      cases hevent
    rw [hnone]
    rfl
  | some event =>
    have hcode : event.code = frame.code := by simpa using List.find?_some hevent
    rw [← hcode]
    cases event with
    | onUserMessage | onRoomUserMessage => exact Reaction.state_forward c.subscriptions frame s
    | onErrorClient => exact Reaction.state_report c.subscriptions .client frame s
    | onErrorServer => exact Reaction.state_report c.subscriptions .server frame s
    | onUserUpdated | onUserEnteredRoom | onUserExitedRoom | onRoomCreated | onRoomUpdated |
      onRoomRemoved | onRoomLocked | onRoomUnlocked => exact Reaction.state_notify _ frame s
    | _ => rfl

/-- The handlers of the application run in the order of registration. -/
theorem settle_main {r : Registry (HandlerState α)} (hplain : r.middleware = []) (frame : Frame)
    (s : HandlerState α) :
    settle (r.table.dispatch? frame) s = serve (r.callbacks frame.code) frame s := by
  simp only [Table.dispatch?, Registry.table, Std.ExtTreeMap.getElem?_map,
    Registry.wrapFrom_of_plain hplain, Registry.fanOut_eq_runAll, Registry.callbacks]
  cases r.handlers[frame.code]? with
  | none => rfl
  | some handlers => exact state_runAll handlers frame s

theorem state_dispatch {c : Client τ δ α} {table : Table (HandlerState α)}
    (htabled : Tabled c.registry c.subscriptions (some table)) (htable : c.table = some table)
    (hplain : c.registry.middleware = []) (now : Instant) (frame : Frame) :
    (c.dispatch now frame).state = c.callbacks.frame now frame c.state := by
  obtain ⟨-, rfl, -⟩ := htabled.built table rfl
  rw [dispatch_eq, htable, Callbacks.frame]
  refine (settle_main hplain frame _).trans ?_
  rw [settle_builtin htabled]
  rfl

end Client

/-! ## What a run registers -/

def Call.isMiddleware : Call α → Bool
  | .addMiddleware .. => true
  | _ => false

/-- The call of a deed that has not been refused. -/
def Deed.granted? (d : Deed τ δ α) : Option (Call α) :=
  if d.result.isOk then d.call? else none

/-- What was registered in the course of a history. -/
def Callbacks.ofHistory (history : List (Deed τ δ α)) : Callbacks α :=
  (history.filterMap Deed.granted?).foldl register empty

namespace Client

theorem run_subscribe (add : Subscriptions α → Subscriptions α) (c : Client τ δ α) :
    (subscribe add).run.run c =
      if c.registry.isSealed then (.error (.routing .alreadySealed), c)
      else (.ok (), { c with subscriptions := add c.subscriptions }) := by
  unfold subscribe
  rw [Attempt.run_bind, Attempt.run_get]
  dsimp only
  split <;> rfl

/-- What becomes of the registration of a callback: it is refused, or the callback is the last one
of its code. -/
inductive Enrols (made : Call α) (c : Client τ δ α) :
    Except ClientError Unit × Client τ δ α → Prop where
  | refused (hsealed : c.registry.isSealed) :
    Enrols made c (.error (.routing .alreadySealed), c)
  | accepted (hopen : c.registry.isSealed = false) {handlers subscriptions}
    (h : ({ c with registry := { c.registry with handlers }, subscriptions } :
      Client τ δ α).callbacks = c.callbacks.register made) :
    Enrols made c (.ok (), { c with registry := { c.registry with handlers }, subscriptions })

theorem enrols_subscribe {made : Call α} {c : Client τ δ α}
    (add : Subscriptions α → Subscriptions α)
    (h : ({ c with subscriptions := add c.subscriptions } : Client τ δ α).callbacks =
      c.callbacks.register made) : Enrols made c ((subscribe add).run.run c) := by
  rw [run_subscribe]
  split
  · rename_i hsealed
    exact .refused hsealed
  · rename_i hopen
    exact .accepted (eq_false_of_ne_true hopen) h

variable [Transport τ] [Directory δ]

theorem enrols {made : Call α} (h : made.isRegistration) (hplain : ¬ made.isMiddleware)
    (c : Client τ δ α) : Enrols made c (made.perform.run.run c) := by
  cases made with
  | addHandler code handler =>
    change Enrols _ c ((onRegistry (·.addHandler code handler)).run.run c)
    rw [run_onRegistry, Registry.addHandler]
    by_cases hsealed : c.registry.isSealed
    · rw [if_pos hsealed]
      exact .refused hsealed
    · rw [if_neg hsealed]
      refine .accepted (eq_false_of_ne_true hsealed) (Callbacks.ext ?_ rfl rfl)
      exact c.registry.callbacks_addTo code handler
  | addMiddleware => exact absurd rfl hplain
  | onUserMessage command callback =>
    refine enrols_subscribe (fun s => { s with messages := s.messages.add command callback }) ?_
    refine Callbacks.ext rfl ?_ rfl
    exact c.subscriptions.messages.callbacks_add command callback
  | onClientError code callback =>
    refine enrols_subscribe
      (fun s => { s with clientErrors := s.clientErrors.add code callback }) ?_
    refine Callbacks.ext rfl rfl (funext fun source => ?_)
    cases source with
    | client => exact c.subscriptions.clientErrors.callbacks_add code callback
    | server => rfl
  | onServerError code callback =>
    refine enrols_subscribe
      (fun s => { s with serverErrors := s.serverErrors.add code callback }) ?_
    refine Callbacks.ext rfl rfl (funext fun source => ?_)
    cases source with
    | client => rfl
    | server => exact c.subscriptions.serverErrors.callbacks_add code callback
  | start | tick | stop | sendRaw | send => cases h

theorem callbacks_deed {c : Client τ δ α} (htabled : c.Registered Tabled) {step : Step τ δ α}
    (hplain : ¬ step.call?.any Call.isMiddleware) :
    (step.deed c).after.callbacks =
      (step.deed c).granted?.elim c.callbacks c.callbacks.register := by
  cases step with
  | shared => rfl
  | call made =>
    by_cases hregistration : made.isRegistration
    · have henrols := enrols hregistration hplain c
      change (made.perform.run.run c).2.callbacks =
        (if (made.perform.run.run c).1.isOk then some made else none).elim c.callbacks
          c.callbacks.register
      generalize made.perform.run.run c = run at henrols ⊢
      cases henrols with
      | refused => rfl
      | accepted _ h => exact h
    · have hregister : c.callbacks.register made = c.callbacks := by
        cases made with
        | start | tick | stop | sendRaw | send => rfl
        | _ => exact absurd rfl hregistration
      obtain ⟨hhandlers, -, hsubscriptions⟩ := kept_of_not_registration hregistration htabled
      have hsame : ((Step.call made).deed c).after.callbacks = c.callbacks := by
        change (made.perform.run.run c).2.callbacks = c.callbacks
        unfold callbacks Registry.callbacks
        rw [hhandlers, hsubscriptions]
      rw [hsame, Deed.granted?]
      split
      · exact hregister.symm
      · rfl

/-- A run without middleware registers the callbacks that are not refused. -/
theorem callbacks_after {c : Client τ δ α} (htabled : c.Registered Tabled)
    {steps : List (Step τ δ α)}
    (hplain : ∀ step ∈ steps, ¬ step.call?.any Call.isMiddleware) :
    (c.after steps).callbacks =
      ((c.history steps).filterMap Deed.granted?).foldl Callbacks.register c.callbacks := by
  induction steps generalizing c with
  | nil => rfl
  | cons step steps ih =>
    rw [List.forall_mem_cons] at hplain
    rw [after_cons, ih (tabled_deed htabled step) hplain.2, callbacks_deed htabled hplain.1,
      history, List.filterMap_cons]
    cases (step.deed c).granted? <;> rfl

end Client

end Multiplayer
