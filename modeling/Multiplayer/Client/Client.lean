import Multiplayer.Client.Error
import Multiplayer.Client.Reaction
import Multiplayer.Session.Credential
import Multiplayer.Session.Directory
import Multiplayer.Session.Session
import Multiplayer.Stream.Assembler
import Multiplayer.Transport.Transport

/-!
# Clients

A client puts the parts together: settings and credential, a transport and a directory, what has
been registered and the table built from it, the reassembly of the inbound stream, the session,
and the state that handlers share.

* `Builder` collects settings, which are mended as they come in.
* `Operation` is something done to a client; what it has changed stays changed when it fails.
* Registration is open until the first start that gets a connection.
-/

namespace Multiplayer

/-- One client of one server. -/
structure Client (τ δ α : Type) where
  settings : Settings
  credential : Credential
  transport : τ
  directory : δ
  registry : Registry (HandlerState α)
  subscriptions : Subscriptions α
  table : Option (Table (HandlerState α))
  assembler : Assembler
  session : Session
  state : HandlerState α
  /-- A receive asks for at least one byte. -/
  receiveChunk_pos : 0 < settings.receiveChunk

/-- Settings for a client to come. -/
structure Builder where
  settings : Settings := {}
  /-- A receive will ask for at least one byte. -/
  receiveChunk_pos : 0 < settings.receiveChunk := by decide

instance : Inhabited Builder := ⟨{}⟩

namespace Builder

/-- Takes settings over, mended. -/
def withSettings (_ : Builder) (settings : Settings) : Builder :=
  ⟨settings.validated, Settings.orOne_pos _⟩

def withHost (b : Builder) (host : String) : Builder :=
  { b with settings.hostOverride := some host }

/-- Asks the transport for at most some bytes at once, and for one at least. -/
def withReceiveChunk (b : Builder) (chunk : UInt64) : Builder :=
  ⟨{ b.settings with receiveChunk := Settings.orOne chunk }, Settings.orOne_pos _⟩

/-- A client with nothing registered and its session idle. -/
def build {τ δ α : Type} (b : Builder) (credential : Credential) (transport : τ) (directory : δ)
    (app : α) (now : Instant) : Client τ δ α where
  settings := b.settings
  credential := credential
  transport := transport
  directory := directory
  registry := .empty
  subscriptions := default
  table := none
  assembler := .empty
  session := .idle b.settings now
  state := ⟨.empty, now, app⟩
  receiveChunk_pos := b.receiveChunk_pos

end Builder

/-- Something done to a client that gives a `β` or fails. -/
abbrev Operation (τ δ α β : Type) := Attempt ClientError (Client τ δ α) β

namespace Client

variable {τ δ α β : Type}

/-! ## Parts -/

/-- Does something to the transport. -/
def onTransport (link : Link τ β) : Operation τ δ α β := fun c =>
  let (result, transport) := link.run.run c.transport
  (result.mapError .transport, { c with transport })

def onDirectory (query : Attempt SessionError δ β) : Operation τ δ α β := fun c =>
  let (result, directory) := query.run.run c.directory
  (result.mapError .session, { c with directory })

def onSession (change : Session → Session) : Operation τ δ α Unit :=
  modify fun c => { c with session := change c.session }

/-- Changes what is registered, unless that is refused. -/
def onRegistry
    (change : Registry (HandlerState α) → Except RoutingError (Registry (HandlerState α))) :
    Operation τ δ α Unit := fun c =>
  match change c.registry with
  | .ok registry => (.ok (), { c with registry })
  | .error e => (.error (.routing e), c)

/-! ## Registration -/

def addHandler (code : UInt16) (handler : Handler (HandlerState α)) : Operation τ δ α Unit :=
  onRegistry (·.addHandler code handler)

/-- Registers middleware for the codes that share `level` leading bits with the given one. -/
def addMiddleware (code : UInt16) (level : UInt8) (middleware : Middleware (HandlerState α)) :
    Operation τ δ α Unit :=
  onRegistry (·.addMiddleware code level middleware)

/-- Adds a subscription while registration is open. -/
def subscribe (add : Subscriptions α → Subscriptions α) : Operation τ δ α Unit := do
  if (← get).registry.isSealed then throw (.routing .alreadySealed)
  else modify fun c => { c with subscriptions := add c.subscriptions }

/-- Subscribes to the user messages with a command. -/
def onUserMessage (command : UInt16) (callback : Callback (HandlerState α) UserMessage) :
    Operation τ δ α Unit :=
  subscribe fun s => { s with messages := s.messages.add command callback }

/-- Subscribes to the reports with a code about what this client has sent. -/
def onClientError (code : UInt16) (callback : Callback (HandlerState α) ErrorReport) :
    Operation τ δ α Unit :=
  subscribe fun s => { s with clientErrors := s.clientErrors.add code callback }

/-- Subscribes to the reports with a code about the server. -/
def onServerError (code : UInt16) (callback : Callback (HandlerState α) ErrorReport) :
    Operation τ δ α Unit :=
  subscribe fun s => { s with serverErrors := s.serverErrors.add code callback }

/-! ## Sending -/

/-- Takes over what was encoded. -/
def encoded (result : Except WireError Bytes) : Operation τ δ α Bytes :=
  Attempt.ofExcept (result.mapError .wire)

variable [Transport τ]

/-- Sends bytes as they are, and counts it if the transport refuses. -/
def write (bytes : Bytes) : Operation τ δ α Unit :=
  tryCatch (onTransport (Transport.deliver bytes)) fun e => do
    onSession (·.recordFailedSend)
    throw e

/-- Closes the transport, which may fail without harm, and forgets the unit in progress. -/
def release (c : Client τ δ α) : Client τ δ α :=
  { c with assembler := c.assembler.reset, transport := (Transport.close.run.run c.transport).2 }

/-- Does something, and releases the transport if that fails. -/
def orRelease (operation : Operation τ δ α Unit) : Operation τ δ α Unit :=
  tryCatch operation fun e => do
    modify release
    throw e

end Client

end Multiplayer
