import Multiplayer.Client.Lifecycle
import Multiplayer.Client.Request
import Multiplayer.Proofs.Attempt
import Multiplayer.Proofs.Stream.Feed

/-!
# Clients that can come about

A client comes from a builder, and then an application calls it as it likes, while others use what
the client shares with them: the peer the transport, anybody the directory, and the application
the state of the handlers.

* `Client.Steady`: properties that the life of a session does not touch, and what keeps them.
* `Call` is one use of a client, and `Client.Reachable` what any uses lead to.
* `Reachable.waiting`: between calls the assembler waits for more, also after failures.
-/

namespace Multiplayer

namespace Client

open Attempt (Keeps)

variable {τ δ α β : Type}

/-! ## What the life of a session keeps -/

/-- A property that connecting, sending and closing do not touch: it is about neither the transport
nor the directory nor the session, and outlives that the unit in progress is forgotten. -/
structure Steady (P : Client τ δ α → Prop) : Prop where
  transport : ∀ {c}, P c → ∀ transport, P { c with transport }
  directory : ∀ {c}, P c → ∀ directory, P { c with directory }
  session : ∀ {c}, P c → ∀ session, P { c with session }
  reset : ∀ {c}, P c → P { c with assembler := c.assembler.reset }

section

variable {P : Client τ δ α → Prop} (hP : Steady P)

include hP

theorem keeps_onTransport (link : Link τ β) : Keeps P (onTransport link : Operation τ δ α β) :=
  fun _ h => hP.transport h _

theorem keeps_onDirectory (query : Attempt SessionError δ β) :
    Keeps P (onDirectory query : Operation τ δ α β) :=
  fun _ h => hP.directory h _

theorem keeps_onSession (change : Session → Session) :
    Keeps P (onSession change : Operation τ δ α Unit) :=
  fun _ h => hP.session h _

theorem keeps_beginSession : Keeps P (beginSession : Operation τ δ α Unit) := by
  refine Keeps.get_bind fun c h => ?_
  split
  · exact hP.session h _
  · exact h

theorem keeps_resolve [Directory δ] : Keeps P (resolve : Operation τ δ α Endpoint) := by
  refine Keeps.get_bind fun c h => ?_
  dsimp only
  split
  · exact h
  · refine (keeps_onDirectory hP _).bind (fun endpoint? => ?_) c h
    split
    · exact Keeps.pure _
    · exact Keeps.throw _

variable [Transport τ]

theorem Steady.release {c : Client τ δ α} (h : P c) : P c.release :=
  hP.transport (hP.reset h) _

theorem keeps_write (bytes : Bytes) : Keeps P (write bytes : Operation τ δ α Unit) :=
  (keeps_onTransport hP _).tryCatch fun e => (keeps_onSession hP _).bind fun _ => .throw e

theorem keeps_orRelease {operation : Operation τ δ α Unit} (h : Keeps P operation) :
    Keeps P (orRelease operation) :=
  h.tryCatch fun e => (Keeps.modify (P := P) fun _ => hP.release).bind fun _ => .throw e

theorem keeps_authenticate : Keeps P (authenticate : Operation τ δ α Unit) :=
  Keeps.get_bind fun c h => ((Keeps.ofExcept _).bind fun _ => keeps_write hP _) c h

theorem keeps_start [Directory δ] (hbuild : Keeps P (buildTable : Operation τ δ α Unit))
    (now : Instant) : Keeps P (start now : Operation τ δ α Unit) := by
  refine Keeps.get_bind fun c h => ?_
  split
  · exact h
  · refine ((keeps_resolve hP).bind fun endpoint => ?_) c h
    refine (keeps_onTransport hP _).bind fun _ => hbuild.bind fun _ => ?_
    exact (keeps_orRelease hP (keeps_authenticate hP)).bind fun _ =>
      (keeps_beginSession hP).bind fun _ => keeps_onSession hP _

theorem keeps_stop : Keeps P (stop : Operation τ δ α Unit) := by
  refine Keeps.get_bind fun c h => ?_
  split
  · refine ((keeps_onSession hP _).bind fun _ => ?_) c h
    exact (keeps_orRelease hP (keeps_write hP _)).bind fun _ => Keeps.modify fun _ => hP.release
  · exact h

theorem keeps_sendRaw (bytes : Bytes) : Keeps P (sendRaw bytes : Operation τ δ α Unit) := by
  refine Keeps.get_bind fun c h => ?_
  split
  · exact keeps_write hP _ c h
  · exact h

theorem keeps_send (packet : Packet) : Keeps P (send packet : Operation τ δ α Unit) :=
  (Keeps.ofExcept _).bind fun _ => keeps_sendRaw hP _

theorem keeps_beat (now : Instant) (wall : Timestamp) :
    Keeps P (beat now wall : Operation τ δ α Unit) := by
  refine Keeps.get_bind fun c h => ?_
  rcases c.session.heartbeat.poll now with ⟨due, heartbeat⟩
  refine Keeps.bind (Keeps.set ?_) (fun _ => ?_) c h
  · exact hP.session h _
  · split
    · exact keeps_write hP _
    · exact Keeps.pure _

end

/-! ## The assembler between calls -/

/-- The assembler waits for more of the stream. -/
def Waiting (c : Client τ δ α) : Prop := c.assembler.stage.Partial

theorem steady_waiting : Steady (Waiting : Client τ δ α → Prop) where
  transport h _ := h
  directory h _ := h
  session h _ := h
  reset _ := trivial

theorem run_onRegistry
    (change : Registry (HandlerState α) → Except RoutingError (Registry (HandlerState α)))
    (c : Client τ δ α) :
    (onRegistry change).run.run c = match change c.registry with
      | .ok registry => (.ok (), { c with registry })
      | .error e => (.error (.routing e), c) := rfl

theorem waiting_onRegistry
    (change : Registry (HandlerState α) → Except RoutingError (Registry (HandlerState α))) :
    Keeps Waiting (onRegistry change : Operation τ δ α Unit) := by
  intro c h
  rw [run_onRegistry]
  split <;> exact h

theorem waiting_subscribe (add : Subscriptions α → Subscriptions α) :
    Keeps Waiting (subscribe add : Operation τ δ α Unit) := by
  refine Keeps.get_bind fun c h => ?_
  split <;> exact h

theorem waiting_buildTable : Keeps Waiting (buildTable : Operation τ δ α Unit) := by
  refine Keeps.get_bind fun c h => ?_
  split
  · refine ((waiting_onRegistry _).bind fun _ => ?_) c h
    exact Keeps.modify fun _ h => h
  · exact h

variable [Transport τ]

theorem waiting_handle (clock : Clock) (event : StreamEvent) {c : Client τ δ α}
    (h : c.Waiting) : (c.handle clock event).Waiting := by
  cases event with
  | established => exact h
  | clock => exact h
  | teardown => exact trivial
  | frame frame =>
    change (c.dispatch clock.monotonic frame).Waiting
    unfold dispatch
    split <;> exact h

theorem waiting_nextEvent {c : Client τ δ α} (h : c.Waiting) : c.nextEvent.2.Waiting :=
  Assembler.partial_poll h (⟨c.transport, c.settings.receiveChunk.toNat⟩ : Inbound τ)

theorem waiting_pump (clock : Clock) {c : Client τ δ α} (h : c.Waiting) :
    (c.pump clock).2.Waiting := by
  fun_induction pump clock c with
  | case1 c _ e c' hevent =>
    have := waiting_nextEvent h
    rwa [hevent] at this
  | case2 c _ c' hevent =>
    have := waiting_nextEvent h
    rwa [hevent] at this
  | case3 c _ event c' hevent ih =>
    have := waiting_nextEvent h
    rw [hevent] at this
    exact ih (waiting_handle clock event this)
  | case4 => exact h

theorem waiting_tick (now : Instant) (clock : Clock) :
    Keeps Waiting (tick now clock : Operation τ δ α Unit) := by
  refine Keeps.get_bind fun c h => ?_
  split
  · refine ((keeps_onTransport steady_waiting _).bind fun _ => ?_) c h
    refine Keeps.bind (fun c h => waiting_pump clock h) fun _ => Keeps.get_bind fun c h => ?_
    split
    · exact keeps_beat steady_waiting _ _ c h
    · exact h
  · exact h

end Client

/-! ## Uses of a client -/

/-- One use that an application makes of a client.  Requests about rooms and messages are packets
that are sent. -/
inductive Call (α : Type) where
  | addHandler (code : UInt16) (handler : Handler (HandlerState α))
  | addMiddleware (code : UInt16) (level : UInt8) (middleware : Middleware (HandlerState α))
  | onUserMessage (command : UInt16) (callback : Callback (HandlerState α) UserMessage)
  | onClientError (code : UInt16) (callback : Callback (HandlerState α) ErrorReport)
  | onServerError (code : UInt16) (callback : Callback (HandlerState α) ErrorReport)
  | start (now : Instant)
  | tick (now : Instant) (clock : Clock)
  | stop
  | sendRaw (bytes : Bytes)
  | send (packet : Packet)

variable {τ δ α : Type} [Transport τ] [Directory δ]

def Call.perform : Call α → Operation τ δ α Unit
  | addHandler code handler => Client.addHandler code handler
  | addMiddleware code level middleware => Client.addMiddleware code level middleware
  | onUserMessage command callback => Client.onUserMessage command callback
  | onClientError code callback => Client.onClientError code callback
  | onServerError code callback => Client.onServerError code callback
  | start now => Client.start now
  | tick now clock => Client.tick now clock
  | stop => Client.stop
  | sendRaw bytes => Client.sendRaw bytes
  | send packet => Client.send packet

namespace Client

/-- A client that calls lead to from a builder.  Between calls, what is shared may change. -/
inductive Reachable : Client τ δ α → Prop where
  | build (b : Builder) (credential : Credential) (transport : τ) (directory : δ) (app : α)
    (now : Instant) : Reachable (b.build credential transport directory app now)
  | call {c : Client τ δ α} (h : Reachable c) (call : Call α) :
    Reachable (call.perform.run.run c).2
  | shared {c : Client τ δ α} (h : Reachable c) (transport : τ) (directory : δ)
    (state : HandlerState α) : Reachable { c with transport, directory, state }

theorem waiting_perform (call : Call α) :
    Attempt.Keeps Waiting (call.perform : Operation τ δ α Unit) := by
  cases call with
  | addHandler | addMiddleware => exact waiting_onRegistry _
  | onUserMessage | onClientError | onServerError => exact waiting_subscribe _
  | start now => exact keeps_start steady_waiting waiting_buildTable now
  | tick now clock => exact waiting_tick now clock
  | stop => exact keeps_stop steady_waiting
  | sendRaw bytes => exact keeps_sendRaw steady_waiting bytes
  | send packet => exact keeps_send steady_waiting packet

/-- Between calls the assembler waits for more, whatever has been called and has failed. -/
theorem Reachable.waiting {c : Client τ δ α} (h : c.Reachable) : c.Waiting := by
  induction h with
  | build => trivial
  | call _ call ih => exact waiting_perform call _ ih
  | shared _ _ _ _ ih => exact ih

end Client

end Multiplayer
