import Multiplayer.Proofs.Client.Likeness

/-!
# Callbacks that fail

A callback that fails changes nothing but its own result, which nobody sees: what else is invoked,
with which arguments and in which lobby, what is sent, and what the calls of the application
result in, is all the same.

* `Step.recorded`: an application that keeps a record of what was invoked.
* `Client.Within` is a client in the middle of a tick; `Within.state_handle` says what a frame does
  to it.
* `failures_isolated` compares runs in which different invocations fail.  Which ones may depend on
  anything, also on a part of the states that is not compared.
-/

namespace Multiplayer

variable {τ δ α α' β : Type}

/-! ## Records of invocations -/

/-- What a callback is invoked with. -/
inductive Argument where
  | frame (frame : Frame)
  | message (message : UserMessage)
  | report (report : ErrorReport)

/-- One invocation of a callback. -/
structure Invocation where
  /-- The step of the run in which the callback was registered. -/
  registration : Nat
  argument : Argument
  /-- The lobby that the callback finds. -/
  lobby : Lobby

/-- A state of an application that keeps a record of the invocations of its callbacks. -/
structure Recorded (α : Type) where
  app : α
  record : List Invocation

namespace Recorded

/-- The states of the applications are related, and the same was invoked. -/
def Like (ρ : α → α' → Prop) (r : Recorded α) (r' : Recorded α') : Prop :=
  ρ r.app r'.app ∧ r.record = r'.record

/-- Apart from the record, the state is the given one. -/
def Shows (r : Recorded α) (app : α) : Prop := r.app = app

end Recorded

namespace HandlerState

def unrecorded (s : HandlerState (Recorded α)) : HandlerState α := ⟨s.lobby, s.now, s.app.app⟩

def recorded (s : HandlerState α) (record : List Invocation) : HandlerState (Recorded α) :=
  ⟨s.lobby, s.now, s.app, record⟩

variable {ρ : α → α' → Prop} {s : HandlerState (Recorded α)}

theorem Like.unrecorded {s' : HandlerState (Recorded α')} (h : s.Like (Recorded.Like ρ) s') :
    s.unrecorded.Like ρ s'.unrecorded :=
  ⟨h.lobby, h.now, h.app.1⟩

theorem Like.recorded {s : HandlerState α} {s' : HandlerState α'} (h : s.Like ρ s')
    (record : List Invocation) :
    (s.recorded record).Like (Recorded.Like ρ) (s'.recorded record) :=
  ⟨h.lobby, h.now, h.app, rfl⟩

theorem Like.eq_unrecorded {s' : HandlerState α} (h : s.Like Recorded.Shows s') :
    s' = s.unrecorded := by
  obtain ⟨lobby, now, app⟩ := s'
  obtain ⟨rfl, rfl, rfl⟩ := h
  rfl

theorem like_recorded (s : HandlerState α) (record : List Invocation) :
    (s.recorded record).Like Recorded.Shows s :=
  ⟨rfl, rfl, rfl⟩

end HandlerState

/-- The callback, with each of its invocations put on record. -/
def recording (registration : Nat) (wrap : β → Argument) (f : Callback (HandlerState α) β) :
    Callback (HandlerState (Recorded α)) β := fun argument s =>
  let (result, after) := (f argument).run.run s.unrecorded
  (result, after.recorded (s.app.record ++ [⟨registration, wrap argument, s.lobby⟩]))

section

variable {ρ : α → α' → Prop}

theorem sameEffect_recording {f : Callback (HandlerState α) β} {f' : Callback (HandlerState α') β}
    (h : SameEffect (HandlerState.Like ρ) f f') (registration : Nat) (wrap : β → Argument) :
    SameEffect (HandlerState.Like (Recorded.Like ρ)) (recording registration wrap f)
      (recording registration wrap f') := by
  intro argument s s' hs
  have hrecord : s.app.record ++ [⟨registration, wrap argument, s.lobby⟩] =
      s'.app.record ++ [⟨registration, wrap argument, s'.lobby⟩] := by
    rw [hs.app.2, hs.lobby]
  change ((_ : HandlerState α).recorded (_ ++ _)).Like _ ((_ : HandlerState α').recorded (_ ++ _))
  rw [hrecord]
  exact (h argument _ _ hs.unrecorded).recorded _

theorem sameEffect_shows (f : Callback (HandlerState α) β) (registration : Nat)
    (wrap : β → Argument) :
    SameEffect (HandlerState.Like Recorded.Shows) (recording registration wrap f) f := by
  intro argument s s' hs
  rw [hs.eq_unrecorded]
  exact HandlerState.like_recorded ..

/-- The call with the invocations of the callback put on record.  Middleware is not recorded. -/
def Call.recorded (registration : Nat) : Call α → Call (Recorded α)
  | .addHandler code handler => .addHandler code (recording registration .frame handler)
  | .addMiddleware code level _ => .addMiddleware code level fun inner => inner
  | .onUserMessage command callback =>
    .onUserMessage command (recording registration .message callback)
  | .onClientError code callback => .onClientError code (recording registration .report callback)
  | .onServerError code callback => .onServerError code (recording registration .report callback)
  | .start now => .start now
  | .tick now clock => .tick now clock
  | .stop => .stop
  | .sendRaw bytes => .sendRaw bytes
  | .send packet => .send packet

theorem Call.Like.recorded {made : Call α} {made' : Call α'} (h : made.Like ρ made')
    (registration : Nat) :
    (made.recorded registration).Like (Recorded.Like ρ) (made'.recorded registration) := by
  cases h with
  | addHandler code h => exact .addHandler code (sameEffect_recording h _ _)
  | onUserMessage command h => exact .onUserMessage command (sameEffect_recording h _ _)
  | onClientError code h => exact .onClientError code (sameEffect_recording h _ _)
  | onServerError code h => exact .onServerError code (sameEffect_recording h _ _)
  | start now => exact .start now
  | tick now clock => exact .tick now clock
  | stop => exact .stop
  | sendRaw bytes => exact .sendRaw bytes
  | send packet => exact .send packet

theorem Call.like_recorded {made : Call α} (hplain : ¬ made.isMiddleware) (registration : Nat) :
    (made.recorded registration).Like Recorded.Shows made := by
  cases made with
  | addHandler code handler => exact .addHandler code (sameEffect_shows _ _ _)
  | addMiddleware => exact absurd rfl hplain
  | onUserMessage command callback => exact .onUserMessage command (sameEffect_shows _ _ _)
  | onClientError code callback => exact .onClientError code (sameEffect_shows _ _ _)
  | onServerError code callback => exact .onServerError code (sameEffect_shows _ _ _)
  | start now => exact .start now
  | tick now clock => exact .tick now clock
  | stop => exact .stop
  | sendRaw bytes => exact .sendRaw bytes
  | send packet => exact .send packet

namespace Step

/-- The step with invocations put on record under the given number.  Others leave the record
alone. -/
def recorded (registration : Nat) : Step τ δ α → Step τ δ (Recorded α)
  | .call made => .call (made.recorded registration)
  | .shared transport directory state =>
    .shared transport directory fun s => (state s.unrecorded).recorded s.app.record

/-- The run with all invocations put on record, each under the number of the step that has
registered the callback. -/
def recordedFrom (n : Nat) (steps : List (Step τ δ α)) : List (Step τ δ (Recorded α)) :=
  (steps.zipIdx n).map fun (step, registration) => step.recorded registration

theorem Like.recorded {step : Step τ δ α} {step' : Step τ δ α'} (h : step.Like ρ step')
    (registration : Nat) :
    (step.recorded registration).Like (Recorded.Like ρ) (step'.recorded registration) := by
  cases h with
  | call h => exact .call (h.recorded registration)
  | shared transport directory h =>
    refine .shared transport directory fun s s' hs => ?_
    rw [hs.app.2]
    exact (h _ _ hs.unrecorded).recorded _

theorem like_recorded {step : Step τ δ α} (hplain : ¬ step.call?.any Call.isMiddleware)
    (registration : Nat) : (step.recorded registration).Like Recorded.Shows step := by
  cases step with
  | call made => exact .call (made.like_recorded hplain registration)
  | shared transport directory state =>
    refine .shared transport directory fun s s' hs => ?_
    rw [hs.eq_unrecorded]
    exact HandlerState.like_recorded ..

theorem Like.plain {step : Step τ δ α} {step' : Step τ δ α'} (h : step.Like ρ step') :
    (¬ step.call?.any Call.isMiddleware) ∧ ¬ step'.call?.any Call.isMiddleware := by
  cases h with
  | shared => exact ⟨Bool.false_ne_true, Bool.false_ne_true⟩
  | call h => cases h <;> exact ⟨Bool.false_ne_true, Bool.false_ne_true⟩

theorem like_recordedFrom {steps : List (Step τ δ α)} {steps' : List (Step τ δ α')}
    (h : List.Forall₂ (Like ρ) steps steps') (n : Nat) :
    List.Forall₂ (Like (Recorded.Like ρ)) (recordedFrom n steps) (recordedFrom n steps') := by
  induction h generalizing n with
  | nil => exact .nil
  | cons hstep _ ih => exact .cons (hstep.recorded n) (ih (n + 1))

theorem shows_recordedFrom {steps : List (Step τ δ α)}
    (hplain : ∀ step ∈ steps, ¬ step.call?.any Call.isMiddleware) (n : Nat) :
    List.Forall₂ (Like Recorded.Shows) (recordedFrom n steps) steps := by
  induction steps generalizing n with
  | nil => exact .nil
  | cons step steps ih =>
    rw [List.forall_mem_cons] at hplain
    exact .cons (like_recorded hplain.1 n) (ih hplain.2 (n + 1))

theorem plain_of_like {steps : List (Step τ δ α)} {steps' : List (Step τ δ α')}
    (h : List.Forall₂ (Like ρ) steps steps') :
    (∀ step ∈ steps, ¬ step.call?.any Call.isMiddleware) ∧
      ∀ step ∈ steps', ¬ step.call?.any Call.isMiddleware := by
  induction h with
  | nil => exact ⟨List.forall_mem_nil _, List.forall_mem_nil _⟩
  | cons hstep _ ih =>
    exact ⟨List.forall_mem_cons.2 ⟨hstep.plain.1, ih.1⟩,
      List.forall_mem_cons.2 ⟨hstep.plain.2, ih.2⟩⟩

end Step

end

namespace Client

variable [Transport τ]

/-! ## In the middle of a tick -/

/-- A client in the middle of a tick before which it was the given one: the transport was given
time, and some events have been read and handled. -/
inductive Within (c : Client τ δ α) : Client τ δ α → Prop where
  | updated (transport : τ) : Within c { c with transport }
  | read {d : Client τ δ α} (h : Within c d) : Within c d.nextEvent.2
  | handled {d : Client τ δ α} (h : Within c d) (clock : Clock) (event : StreamEvent) :
    Within c (d.handle clock event)

/-- A frame does what was registered before the tick. -/
theorem Within.state_handle {c d : Client τ δ α} (h : c.Within d) (htable : c.table.isSome)
    (htabled : c.Registered Tabled) (hplain : c.registry.middleware = []) (clock : Clock)
    (frame : Frame) :
    (d.handle clock (.frame frame)).state =
      c.callbacks.frame clock.monotonic frame d.state := by
  obtain ⟨table, htable⟩ := Option.isSome_iff_exists.1 htable
  let P : Registry (HandlerState α) → Subscriptions α → Option (Table (HandlerState α)) → Prop :=
    fun registry subscriptions table? =>
      registry = c.registry ∧ subscriptions = c.subscriptions ∧ table? = some table
  have hkept : d.Registered P := by
    induction h with
    | updated => exact ⟨rfl, rfl, htable⟩
    | read _ ih => exact ih
    | handled _ clock event ih => exact registered_handle P clock event ih
  obtain ⟨hregistry, hsubscriptions, hsome⟩ := hkept
  have hcallbacks : d.callbacks = c.callbacks := by
    unfold callbacks
    rw [hregistry, hsubscriptions]
  unfold Registered at htabled
  rw [← hregistry, ← hsubscriptions, htable] at htabled
  rw [← hregistry] at hplain
  rw [← hcallbacks]
  exact state_dispatch htabled hsome hplain clock.monotonic frame

/-! ## Runs -/

variable [Directory δ]

/-- **Callbacks that fail disturb nothing.**  Two applications without middleware make the same
calls, and their callbacks have the same effects but fail differently.  Then all results,
transports, sessions and lobbies are the same, and so are the invocations on record. -/
theorem failures_isolated {ρ : α → α' → Prop} (b : Builder) (credential : Credential)
    (transport : τ) (directory : δ) (now : Instant) {app : α} {app' : α'} (happ : ρ app app')
    {steps : List (Step τ δ α)} {steps' : List (Step τ δ α')}
    (h : List.Forall₂ (Step.Like ρ) steps steps') :
    let c := b.build credential transport directory app now
    let c' := b.build credential transport directory app' now
    let recorded := b.build credential transport directory (Recorded.mk app []) now
    let recorded' := b.build credential transport directory (Recorded.mk app' []) now
    List.Forall₂ (Deed.Like (Recorded.Like ρ)) (recorded.history (Step.recordedFrom 0 steps))
        (recorded'.history (Step.recordedFrom 0 steps')) ∧
      List.Forall₂ (Deed.Like Recorded.Shows) (recorded.history (Step.recordedFrom 0 steps))
        (c.history steps) ∧
      List.Forall₂ (Deed.Like Recorded.Shows) (recorded'.history (Step.recordedFrom 0 steps'))
        (c'.history steps') ∧
      ((c.after steps).session.isConnected → ∀ d, (c.after steps).Within d → ∀ clock frame,
        (d.handle clock (.frame frame)).state =
          (Callbacks.ofHistory (c.history steps)).frame clock.monotonic frame d.state) := by
  intro c c' recorded recorded'
  obtain ⟨hplain, hplain'⟩ := Step.plain_of_like h
  refine ⟨?_, ?_, ?_, fun hconnected d hwithin clock frame => ?_⟩
  · exact (history_like (Step.like_recordedFrom h 0) (like_build _ _ _ _ _ ⟨happ, rfl⟩)).1
  · exact (history_like (Step.shows_recordedFrom hplain 0) (like_build _ _ _ _ _ rfl)).1
  · exact (history_like (Step.shows_recordedFrom hplain' 0) (like_build _ _ _ _ _ rfl)).1
  · have hreachable : (c.after steps).Reachable := Reachable.after (.build ..) steps
    have hlike := (history_like h (like_build b credential transport directory now happ)).2
    have htabled : c.Registered Tabled := tabled_build ..
    have hempty : c.callbacks = .empty := callbacks_build ..
    have hcallbacks : (c.after steps).callbacks = Callbacks.ofHistory (c.history steps) := by
      rw [callbacks_after htabled hplain, hempty, Callbacks.ofHistory]
    rw [hwithin.state_handle (hreachable.isSome_table hconnected) hreachable.tabled hlike.plain.1,
      hcallbacks]

/-- Counts, and then fails if asked to. -/
def counting (fails : Bool) : Callback (HandlerState Nat) β := fun _ => do
  modify fun s => { s with app := s.app + 1 }
  if fails then throw (.failed "over the limit")

/-- The errors of the server are counted by a handler and two subscriptions, of which some fail.  An
error comes in, and then one whose code is cut off, which what is built in cannot read. -/
def countingErrors (fails : Nat → Bool) : List (Step Pipe FixedDirectory Nat) :=
  [.call (.addHandler Event.onErrorServer.code (counting (fails 0))),
    .call (.onServerError ErrorReport.internalError (counting (fails 1))),
    .call (.onServerError ErrorReport.internalError (counting (fails 2))), .call (.start ⟨0⟩),
    .shared (·.push [8, 0, 4, 0x8f, 0xfe, 0xff, 0xff, 8, 0, 2, 0x8f, 0xfe]) id id,
    .call (.tick ⟨1⟩ ⟨⟨1⟩, default⟩)]

theorem sameEffect_counting (fails fails' : Bool) :
    SameEffect (HandlerState.Like Eq) (counting fails : Callback (HandlerState Nat) β)
      (counting fails') := by
  have hcounts (fails : Bool) (argument : β) (s : HandlerState Nat) :
      ((counting fails argument).run.run s).2 = { s with app := s.app + 1 } := by
    cases fails <;> rfl
  intro argument s s' hs
  rw [hcounts, hcounts]
  exact ⟨hs.lobby, hs.now, congrArg (· + 1) hs.app⟩

theorem like_countingErrors (fails fails' : Nat → Bool) :
    List.Forall₂ (Step.Like Eq) (countingErrors fails) (countingErrors fails') := by
  refine .cons (.call (.addHandler _ ?_)) (.cons (.call (.onServerError _ ?_))
    (.cons (.call (.onServerError _ ?_)) (.cons (.call (.start _)) (.cons ?_
      (.cons (.call (.tick _ _)) .nil)))))
  · exact sameEffect_counting _ _
  · exact sameEffect_counting _ _
  · exact sameEffect_counting _ _
  · exact .shared _ _ fun _ _ hs => hs

/-- Whether the handler fails or the subscriptions do, the first error is counted by all of them and
the second one by the handler. -/
theorem failures_isolated_countingErrors :
    let recorded := (default : Builder).build (Credential.parse "cDpaRHBaVkhCclZraENOZz09")
      Pipe.empty (⟨some (.ofAddress "localhost" 7000)⟩ : FixedDirectory) (Recorded.mk 0 []) ⟨0⟩
    List.Forall₂ (Deed.Like (Recorded.Like Eq))
        (recorded.history (Step.recordedFrom 0 (countingErrors (· == 0))))
        (recorded.history (Step.recordedFrom 0 (countingErrors (· != 0)))) ∧
      (recorded.after (Step.recordedFrom 0 (countingErrors (· == 0)))).state.app.record.map
        (·.registration) = [1, 2, 0, 0] := by
  intro recorded
  refine ⟨?_, by decide +kernel⟩
  exact (failures_isolated (default : Builder) (Credential.parse "cDpaRHBaVkhCclZraENOZz09")
    Pipe.empty (⟨some (.ofAddress "localhost" 7000)⟩ : FixedDirectory) ⟨0⟩ (rfl : (0 : Nat) = 0)
    (like_countingErrors (· == 0) (· != 0))).1

end Client

end Multiplayer
