import Multiplayer.Proofs.Client.Draining

/-!
# Clients that do the same

What a client does depends on its transport only through what the transport answers, and not at all
on how many writes were refused before.

* `Client.viewed`: a client with another kind of transport that shows the same, and with some more
  refused writes on record.
* `mirrors_perform`: whatever is called, the two do the same, and show the same afterwards.
* `keeps_perform`: what all uses of a transport keep, every call keeps.
-/

namespace Multiplayer

/-- The session with some more refused writes on record. -/
def Session.withRefused (refused : Nat) (s : Session) : Session :=
  { s with failedSends := s.failedSends + refused }

namespace Session

variable (refused : Nat) (s : Session)

theorem isConnected_withRefused : (s.withRefused refused).isConnected = s.isConnected := rfl

theorem stop_withRefused : (s.withRefused refused).stop = s.stop.withRefused refused := by
  unfold stop
  rw [isConnected_withRefused]
  split <;> rfl

theorem recordFailedSend_withRefused :
    (s.withRefused refused).recordFailedSend = s.recordFailedSend.withRefused refused := by
  simp only [recordFailedSend, withRefused, Nat.add_right_comm]

theorem begin_withRefused :
    (s.withRefused refused).begin = s.begin.map (withRefused refused) := by
  unfold begin
  have hphase : (s.withRefused refused).phase = s.phase := rfl
  rw [hphase]
  split <;> rfl

end Session

/-- A view of the transport of an inbound stream. -/
def Inbound.viewed {τ τ' : Type} (view : τ → τ') (source : Inbound τ) : Inbound τ' :=
  ⟨view source.transport, source.chunk⟩

namespace Client

open Attempt (Mirrors)

variable {τ τ' δ α β : Type}

/-- The client as a view of its transport shows it, with some more refused writes on record. -/
def viewed (view : τ → τ') (refused : Nat) (c : Client τ δ α) : Client τ' δ α :=
  { c with transport := view c.transport, session := c.session.withRefused refused }

variable {view : τ → τ'} {refused : Nat}

/-! ## Parts -/

theorem mirrors_onTransport {link : Link τ β} {link' : Link τ' β} (h : Mirrors view link link') :
    Mirrors (viewed view refused) (onTransport link : Operation τ δ α β)
      (onTransport link' : Operation τ' δ α β) := by
  intro c
  change ((link'.run.run (view c.transport)).1.mapError ClientError.transport,
    ({ c.viewed view refused with transport := (link'.run.run (view c.transport)).2 } :
      Client τ' δ α)) = _
  rw [h c.transport]
  rfl

theorem mirrors_onSession {change : Session → Session}
    (h : ∀ s, change (s.withRefused refused) = (change s).withRefused refused) :
    Mirrors (viewed view refused) (onSession change : Operation τ δ α Unit)
      (onSession change : Operation τ' δ α Unit) := by
  refine Mirrors.modify fun c => ?_
  have hsession : change (c.viewed view refused).session = (change c.session).withRefused refused :=
    h c.session
  rw [hsession]
  rfl

theorem mirrors_onRegistry
    (change : Registry (HandlerState α) → Except RoutingError (Registry (HandlerState α))) :
    Mirrors (viewed view refused) (onRegistry change : Operation τ δ α Unit)
      (onRegistry change : Operation τ' δ α Unit) := by
  intro c
  have hregistry : (c.viewed view refused).registry = c.registry := rfl
  rw [run_onRegistry, run_onRegistry, hregistry]
  split <;> rfl

theorem mirrors_subscribe (add : Subscriptions α → Subscriptions α) :
    Mirrors (viewed view refused) (subscribe add : Operation τ δ α Unit)
      (subscribe add : Operation τ' δ α Unit) := by
  refine Mirrors.get_bind fun c => ?_
  have hregistry : (c.viewed view refused).registry = c.registry := rfl
  rw [hregistry]
  split <;> rfl

/-- Finding the endpoint sees the credential and the directory, and nothing else. -/
theorem mirrors_resolve [Directory δ] {f : Client τ δ α → Client τ' δ α}
    (hcredential : ∀ c, (f c).credential = c.credential)
    (hdirectory : ∀ c directory, f { c with directory } = { f c with directory })
    (hsame : ∀ c, (f c).directory = c.directory) :
    Mirrors f (resolve : Operation τ δ α Endpoint) (resolve : Operation τ' δ α Endpoint) := by
  have hlookup (appId : String) :
      Mirrors f (onDirectory (Directory.lookup appId) : Operation τ δ α (Option Endpoint))
        (onDirectory (Directory.lookup appId) : Operation τ' δ α (Option Endpoint)) := by
    intro c
    let answer := (Directory.lookup appId : Attempt SessionError δ (Option Endpoint)).run.run
    change ((answer (f c).directory).1.mapError ClientError.session,
      ({ f c with directory := (answer (f c).directory).2 } : Client τ' δ α)) =
        ((answer c.directory).1.mapError ClientError.session,
          f { c with directory := (answer c.directory).2 })
    rw [hsame, hdirectory c (answer c.directory).2]
  refine Mirrors.get_bind fun c => ?_
  dsimp only
  rw [hcredential]
  split
  · rfl
  · refine Mirrors.bind (hlookup _) (fun endpoint? => ?_) c
    split
    · exact Mirrors.pure _
    · exact Mirrors.throw _

theorem mirrors_buildTable :
    Mirrors (viewed view refused) (buildTable : Operation τ δ α Unit)
      (buildTable : Operation τ' δ α Unit) := by
  refine Mirrors.get_bind fun c => ?_
  have htable : (c.viewed view refused).table = c.table := rfl
  have hsubscriptions : (c.viewed view refused).subscriptions = c.subscriptions := rfl
  rw [htable, hsubscriptions]
  split
  · refine Mirrors.bind (mirrors_onRegistry _) (fun _ => ?_) c
    exact Mirrors.modify fun _ => by rfl
  · rfl

theorem mirrors_beginSession :
    Mirrors (viewed view refused) (beginSession : Operation τ δ α Unit)
      (beginSession : Operation τ' δ α Unit) := by
  refine Mirrors.get_bind fun c => ?_
  have hbegin : (c.viewed view refused).session.begin =
      c.session.begin.map (Session.withRefused refused) :=
    Session.begin_withRefused refused c.session
  rw [hbegin]
  cases c.session.begin with
  | ok session => rfl
  | error e => rfl

/-! ## Writing -/

variable [Transport τ] [Transport τ']

theorem release_viewed (h : Transport.Mirrors view) (c : Client τ δ α) :
    (c.viewed view refused).release = c.release.viewed view refused := by
  have hclose : (Transport.close.run.run (c.viewed view refused).transport) = _ :=
    h.close c.transport
  unfold release
  rw [hclose]
  rfl

variable (h : Transport.Mirrors view)

include h

theorem mirrors_write (bytes : Bytes) :
    Mirrors (viewed view refused) (write bytes : Operation τ δ α Unit)
      (write bytes : Operation τ' δ α Unit) := by
  refine (mirrors_onTransport (Transport.mirrors_deliver h.send bytes)).tryCatch fun e => ?_
  exact (mirrors_onSession (Session.recordFailedSend_withRefused refused)).bind fun _ => .throw e

theorem mirrors_orRelease {operation : Operation τ δ α Unit} {operation' : Operation τ' δ α Unit}
    (hoperation : Mirrors (viewed view refused) operation operation') :
    Mirrors (viewed view refused) (orRelease operation) (orRelease operation') := by
  refine hoperation.tryCatch fun e => ?_
  exact (Mirrors.modify (release_viewed h)).bind fun _ => .throw e

theorem mirrors_authenticate :
    Mirrors (viewed view refused) (authenticate : Operation τ δ α Unit)
      (authenticate : Operation τ' δ α Unit) := by
  refine Mirrors.get_bind fun c => ?_
  have hcredential : (c.viewed view refused).credential = c.credential := rfl
  rw [hcredential]
  exact Mirrors.bind (Mirrors.ofExcept _) (fun _ => mirrors_write h _) c

theorem mirrors_start [Directory δ] (now : Instant) :
    Mirrors (viewed view refused) (start now : Operation τ δ α Unit)
      (start now : Operation τ' δ α Unit) := by
  refine Mirrors.get_bind fun c => ?_
  have hphase : (c.viewed view refused).session.phase = c.session.phase := rfl
  have hsettings : (c.viewed view refused).settings = c.settings := rfl
  rw [hphase, hsettings]
  split
  · rfl
  · have hresolve := mirrors_resolve (f := viewed (τ := τ) (δ := δ) (α := α) view refused)
      (fun _ => rfl) (fun _ _ => rfl) fun _ => rfl
    refine Mirrors.bind hresolve (fun endpoint => ?_) c
    refine (mirrors_onTransport (h.connect _ _)).bind fun _ => ?_
    refine mirrors_buildTable.bind fun _ => ?_
    refine (mirrors_orRelease h (mirrors_authenticate h)).bind fun _ => ?_
    exact mirrors_beginSession.bind fun _ => mirrors_onSession fun _ => rfl

theorem mirrors_stop :
    Mirrors (viewed view refused) (stop : Operation τ δ α Unit)
      (stop : Operation τ' δ α Unit) := by
  refine Mirrors.get_bind fun c => ?_
  have hconnected : (c.viewed view refused).session.isConnected = c.session.isConnected := rfl
  rw [hconnected]
  split
  · refine Mirrors.bind (mirrors_onSession (Session.stop_withRefused refused)) (fun _ => ?_) c
    refine (mirrors_orRelease h (mirrors_write h _)).bind fun _ => ?_
    exact Mirrors.modify (release_viewed h)
  · rfl

theorem mirrors_sendRaw (bytes : Bytes) :
    Mirrors (viewed view refused) (sendRaw bytes : Operation τ δ α Unit)
      (sendRaw bytes : Operation τ' δ α Unit) := by
  refine Mirrors.get_bind fun c => ?_
  have hconnected : (c.viewed view refused).session.isConnected = c.session.isConnected := rfl
  rw [hconnected]
  split
  · exact mirrors_write h bytes c
  · rfl

theorem mirrors_send (packet : Packet) :
    Mirrors (viewed view refused) (send packet : Operation τ δ α Unit)
      (send packet : Operation τ' δ α Unit) :=
  (Mirrors.ofExcept _).bind fun _ => mirrors_sendRaw h _

/-! ## Ticking -/

theorem read_viewed (wanted : Nat) (source : Inbound τ) :
    ByteSource.read wanted (source.viewed view) =
      ((ByteSource.read wanted source).1, (ByteSource.read wanted source).2.viewed view) := by
  have hreceive := h.receive (min wanted source.chunk) source.transport
  change (((Transport.receive (min wanted source.chunk)).run.run (view source.transport)).1,
    (⟨((Transport.receive (min wanted source.chunk)).run.run (view source.transport)).2,
      source.chunk⟩ : Inbound τ')) = _
  rw [hreceive]
  rfl

theorem poll_viewed (a : Assembler) (source : Inbound τ) :
    a.poll (source.viewed view) =
      ((a.poll source).1, (a.poll source).2.1, (a.poll source).2.2.viewed view) := by
  have hread (a : Assembler) (source : Inbound τ) := read_viewed h a.stage.wanted source
  fun_induction Assembler.poll a source with
  | case1 a source e source' hsource =>
    have hviewed := hread a source
    rw [hsource] at hviewed
    rw [Assembler.poll, hviewed]
  | case2 a source source' hsource =>
    have hviewed := hread a source
    rw [hsource] at hviewed
    rw [Assembler.poll, hviewed]
  | case3 a source b more source' hsource event a' haccept =>
    have hviewed := hread a source
    rw [hsource] at hviewed
    rw [Assembler.poll, hviewed]
    simp only [haccept]
  | case4 a source b more source' hsource a' haccept ih =>
    have hviewed := hread a source
    rw [hsource] at hviewed
    rw [Assembler.poll, hviewed]
    simp only [haccept, ih]

theorem nextEvent_viewed (c : Client τ δ α) :
    (c.viewed view refused).nextEvent = (c.nextEvent.1, c.nextEvent.2.viewed view refused) := by
  let source : Inbound τ := ⟨c.transport, c.settings.receiveChunk.toNat⟩
  have hnext : (c.viewed view refused).nextEvent =
      ((c.assembler.poll (source.viewed view)).1,
        { c.viewed view refused with
          assembler := (c.assembler.poll (source.viewed view)).2.1
          transport := (c.assembler.poll (source.viewed view)).2.2.transport }) := rfl
  rw [hnext, poll_viewed h]
  rfl

theorem handle_viewed (clock : Clock) (event : StreamEvent) (c : Client τ δ α) :
    (c.viewed view refused).handle clock event =
      (c.handle clock event).viewed view refused := by
  cases event with
  | established => rfl
  | clock => rfl
  | teardown =>
    have hstop : ({ c.viewed view refused with
        session := (c.viewed view refused).session.stop } : Client τ' δ α) =
        viewed view refused { c with session := c.session.stop } := by
      have hsession : (c.viewed view refused).session.stop =
          c.session.stop.withRefused refused := Session.stop_withRefused refused c.session
      rw [hsession]
      rfl
    change ({ c.viewed view refused with
      session := (c.viewed view refused).session.stop } : Client τ' δ α).release = _
    rw [hstop, release_viewed h]
    rfl
  | frame frame =>
    simp only [handle, dispatch_eq]
    rfl

theorem pump_viewed (clock : Clock) (c : Client τ δ α) :
    (c.viewed view refused).pump clock =
      ((c.pump clock).1, (c.pump clock).2.viewed view refused) := by
  have hconnected (c : Client τ δ α) :
      (c.viewed view refused).session.isConnected = c.session.isConnected := rfl
  fun_induction pump clock c with
  | case1 c hc e c' hevent =>
    have hviewed : (c.viewed view refused).nextEvent = _ := nextEvent_viewed h c
    rw [hevent] at hviewed
    rw [pump, dif_pos ((hconnected c).trans hc), hviewed]
  | case2 c hc c' hevent =>
    have hviewed : (c.viewed view refused).nextEvent = _ := nextEvent_viewed h c
    rw [hevent] at hviewed
    rw [pump, dif_pos ((hconnected c).trans hc), hviewed]
  | case3 c hc event c' hevent ih =>
    have hviewed : (c.viewed view refused).nextEvent = _ := nextEvent_viewed h c
    rw [hevent] at hviewed
    rw [pump, dif_pos ((hconnected c).trans hc), hviewed]
    simp only [handle_viewed h, ih]
  | case4 c hc =>
    have hover : ¬ (c.viewed view refused).session.isConnected := by rwa [hconnected]
    rw [pump, dif_neg hover]

theorem mirrors_beat (now : Instant) (wall : Timestamp) :
    Mirrors (viewed view refused) (beat now wall : Operation τ δ α Unit)
      (beat now wall : Operation τ' δ α Unit) := by
  refine Mirrors.get_bind fun c => ?_
  have hheartbeat : (c.viewed view refused).session.heartbeat = c.session.heartbeat := rfl
  rw [hheartbeat]
  rcases c.session.heartbeat.poll now with ⟨due, heartbeat⟩
  refine Mirrors.bind (fun _ => rfl) (fun _ => ?_) c
  split
  · exact mirrors_write h _
  · exact Mirrors.pure _

theorem mirrors_tick (now : Instant) (clock : Clock) :
    Mirrors (viewed view refused) (tick now clock : Operation τ δ α Unit)
      (tick now clock : Operation τ' δ α Unit) := by
  have hconnected (c : Client τ δ α) :
      (c.viewed view refused).session.isConnected = c.session.isConnected := rfl
  have harrived : Mirrors (viewed view refused) (handleArrived clock : Operation τ δ α Unit)
      (handleArrived clock : Operation τ' δ α Unit) := by
    intro c
    change (((c.viewed view refused).pump clock).1.mapError ClientError.transport,
      ((c.viewed view refused).pump clock).2) = _
    rw [pump_viewed h]
    rfl
  refine Mirrors.get_bind fun c => ?_
  rw [hconnected]
  split
  · refine Mirrors.bind (mirrors_onTransport h.update) (fun _ => ?_) c
    refine harrived.bind fun _ => Mirrors.get_bind fun c => ?_
    rw [hconnected]
    split
    · exact mirrors_beat h now clock.wall c
    · rfl
  · rfl

/-! ## Any call -/

/-- Whatever is called, the client and what is shown of it do the same. -/
theorem mirrors_perform [Directory δ] (call : Call α) :
    Mirrors (viewed view refused) (call.perform : Operation τ δ α Unit)
      (call.perform : Operation τ' δ α Unit) := by
  cases call with
  | addHandler code handler => exact mirrors_onRegistry (·.addHandler code handler)
  | addMiddleware code level middleware =>
    exact mirrors_onRegistry (·.addMiddleware code level middleware)
  | onUserMessage command callback =>
    exact mirrors_subscribe fun s => { s with messages := s.messages.add command callback }
  | onClientError code callback =>
    exact mirrors_subscribe fun s => { s with clientErrors := s.clientErrors.add code callback }
  | onServerError code callback =>
    exact mirrors_subscribe fun s => { s with serverErrors := s.serverErrors.add code callback }
  | start now => exact mirrors_start h now
  | tick now clock => exact mirrors_tick h now clock
  | stop => exact mirrors_stop h
  | sendRaw bytes => exact mirrors_sendRaw h bytes
  | send packet => exact mirrors_send h packet

omit [Transport τ'] h in
/-- What all uses of a transport keep, a client keeps whatever is called: it does what it does on
the transports with that property. -/
theorem keeps_perform [Directory δ] {P : τ → Prop} (hP : Transport.Keeps P) (call : Call α) :
    (call.perform : Operation τ δ α Unit).Keeps fun c => P c.transport := by
  intro c hc
  let := hP.restrict
  let c' : Client { t : τ // P t } δ α := { c with transport := ⟨c.transport, hc⟩ }
  have hmirrors : Mirrors (viewed Subtype.val 0) call.perform
      (call.perform : Operation τ δ α Unit) := mirrors_perform hP.mirrors call
  have hperform : call.perform.run.run c = _ := hmirrors c'
  rw [hperform]
  exact (call.perform.run.run c').2.transport.2

end Client

end Multiplayer
