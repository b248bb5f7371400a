import Multiplayer.Client.Dispatch
import Multiplayer.Stream.Control
import Multiplayer.Time.Clock

/-!
# The life of a client

A client is started once, then ticks, and is stopped by itself or by the server.

* `start` finds the endpoint, connects, builds the table and authenticates.  If any of it fails
  the client is still idle and can be started again.
* `tick` handles what has arrived, and then sends a heartbeat if one is due.
* `pump` handles events one by one.  An event costs at least one byte of what is pending, and
  after the end of the session no more events are handled, so it comes to an end.
* `stop` says goodbye and closes.
-/

namespace Multiplayer.Client

variable {τ δ α : Type} [Transport τ]

/-! ## Starting -/

/-- Finds the endpoint of the credential's application. -/
def resolve [Directory δ] : Operation τ δ α Endpoint := do
  let appId := (← get).credential.appId
  if appId = "" then throw (.session .invalidCredential)
  else
    match ← onDirectory (Directory.lookup appId) with
    | some endpoint => return endpoint
    | none => throw (.session (.endpointNotFound appId))

/-- Builds the table, with the reactions of the client as built-in handlers, unless that has been
done. -/
def buildTable : Operation τ δ α Unit := do
  let c ← get
  if c.table.isNone then
    onRegistry (Reaction.install c.subscriptions)
    modify fun c =>
      let (table, registry) := c.registry.build
      { c with table := some table, registry }

/-- Shows the credential. -/
def authenticate : Operation τ δ α Unit := do
  write (← encoded (Control.authenticate (← get).credential.token))

def beginSession : Operation τ δ α Unit := do
  let c ← get
  match c.session.begin with
  | .ok session => set { c with session }
  | .error e => throw (.session e)

/-- Starts the session; the first heartbeat interval begins at `now`. -/
def start [Directory δ] (now : Instant) : Operation τ δ α Unit := do
  let c ← get
  if c.session.phase ≠ .idle then throw (.session .alreadyStarted)
  else
    let endpoint ← resolve
    onTransport (Transport.connect (c.settings.hostOverride.getD endpoint.host) endpoint.port)
    buildTable
    orRelease authenticate
    beginSession
    onSession (·.resetHeartbeat now)

/-! ## Events -/

/-- Handles one event. -/
def handle (clock : Clock) (event : StreamEvent) (c : Client τ δ α) : Client τ δ α :=
  match event with
  | .established keepAlive session =>
    { c with
      session := c.session.establish session keepAlive
      state.lobby := c.state.lobby.identify session }
  | .clock sentAt => { c with session := c.session.recordLatency sentAt clock.wall }
  | .teardown _ => release { c with session := c.session.stop }
  | .frame frame => c.dispatch clock.monotonic frame

/-- Reads the next event from the transport. -/
def nextEvent (c : Client τ δ α) : Except TransportError (Option StreamEvent) × Client τ δ α :=
  let source : Inbound τ := ⟨c.transport, c.settings.receiveChunk.toNat⟩
  let (event, assembler, source) := c.assembler.poll source
  (event, { c with assembler, transport := source.transport })

/-- A bound on the events still to handle: none once the session is over. -/
def outstanding (c : Client τ δ α) : Nat :=
  if c.session.isConnected then Transport.pending c.transport + 1 else 0

theorem pending_nextEvent_lt {c c' : Client τ δ α} {event : StreamEvent}
    (h : c.nextEvent = (.ok (some event), c')) :
    Transport.pending c'.transport < Transport.pending c.transport := by
  let source : Inbound τ := ⟨c.transport, c.settings.receiveChunk.toNat⟩
  have hevent : (c.assembler.poll source).1 = .ok (some event) := congrArg Prod.fst h
  have hlt := Assembler.poll_pending_lt hevent
  have hclient : c' = c.nextEvent.2 := (congrArg Prod.snd h).symm
  subst hclient
  exact hlt

/-- An event leaves the transport alone, or it ends the session. -/
theorem outstanding_handle_le (clock : Clock) (event : StreamEvent) (c : Client τ δ α) :
    (c.handle clock event).outstanding ≤ Transport.pending c.transport + 1 := by
  have hle (c' : Client τ δ α) (h : c'.transport = c.transport) :
      c'.outstanding ≤ Transport.pending c.transport + 1 := by
    unfold outstanding
    rw [h]
    split <;> omega
  cases event with
  | established => exact hle _ rfl
  | clock => exact hle _ rfl
  | frame frame => exact hle _ (dispatch_transport ..)
  | teardown =>
    have hover : ¬ c.session.stop.isConnected := by
      unfold Session.stop
      split <;> simp_all [Session.isConnected]
    simp [handle, release, outstanding, hover]

theorem outstanding_handle_nextEvent_lt {clock : Clock} {c c' : Client τ δ α}
    {event : StreamEvent} (hconnected : c.session.isConnected)
    (h : c.nextEvent = (.ok (some event), c')) :
    (c'.handle clock event).outstanding < c.outstanding := by
  have hlt := pending_nextEvent_lt h
  have hle := outstanding_handle_le clock event c'
  have heq : c.outstanding = Transport.pending c.transport + 1 := by
    simp [outstanding, hconnected]
  omega

/-- Handles events until none is complete, the session is over, or the transport fails. -/
def pump (clock : Clock) (c : Client τ δ α) : Except TransportError Unit × Client τ δ α :=
  if _h : c.session.isConnected then
    match _h' : c.nextEvent with
    | (.error e, c') => (.error e, c')
    | (.ok none, c') => (.ok (), c')
    | (.ok (some event), c') => pump clock (c'.handle clock event)
  else (.ok (), c)
termination_by c.outstanding
decreasing_by exact outstanding_handle_nextEvent_lt _h _h'

/-! ## Ticking -/

/-- Sends a heartbeat if one is due.  The interval begins anew even if sending fails. -/
def beat (now : Instant) (wall : Timestamp) : Operation τ δ α Unit := do
  let c ← get
  let (due, heartbeat) := c.session.heartbeat.poll now
  set { c with session.heartbeat := heartbeat }
  if due then write (Control.heartbeat wall)

/-- Handles everything that has arrived. -/
def handleArrived (clock : Clock) : Operation τ δ α Unit := fun c =>
  let (result, c) := c.pump clock
  (result.mapError .transport, c)

/-- Gives the transport time, handles what has arrived, and keeps the session alive.  Without a
session, only the heartbeat interval begins anew.  Whether a heartbeat is due is asked of `now`,
and everything else takes the time from the clock. -/
def tick (now : Instant) (clock : Clock) : Operation τ δ α Unit := do
  if (← get).session.isConnected then
    onTransport Transport.update
    handleArrived clock
    if (← get).session.isConnected then beat now clock.wall
  else onSession (·.resetHeartbeat now)

/-! ## Stopping -/

/-- Ends a session that is connected.  It ends even if nobody can be told. -/
def stop : Operation τ δ α Unit := do
  if (← get).session.isConnected then
    onSession (·.stop)
    orRelease (write Control.closing)
    modify release

end Multiplayer.Client
