import Multiplayer.Proofs.Client.Mirroring

/-!
# What calls do

What becomes of a registration depends on whether registration is open.  A start goes through four
parts, each of which may fail, before the session begins, and a tick through three.  What a part
does is said once, by the fields of the client that it changes.

* `Registers` lists what may become of a registration; `registers_perform` says that the list is
  complete.
* `Builds` and `builds` are the same for the table.
* `Starts` lists how far a start may come, and what is left then, with `starts`.
* `Ticks` and `ticks` are the same for a tick.
* `run_stop`: stopping a connected client writes the closing frame and releases the transport,
  whatever becomes of the write.
-/

namespace Multiplayer

variable {τ δ α β : Type}

namespace Call

def isRegistration : Call α → Bool
  | .addHandler .. | .addMiddleware .. | .onUserMessage .. | .onClientError .. |
    .onServerError .. => true
  | _ => false

/-- A registration, with middleware for at most sixteen leading bits. -/
def registers : Call α → Bool
  | .addMiddleware _ level _ => level.toNat ≤ 16
  | made => made.isRegistration

end Call

namespace Client

/-! ## The parts -/

theorem run_onTransport (link : Link τ β) (c : Client τ δ α) :
    (onTransport link).run.run c = ((link.run.run c.transport).1.mapError .transport,
      { c with transport := (link.run.run c.transport).2 }) := rfl

theorem eq_of_onTransport {link : Link τ β} {c c' : Client τ δ α} {result}
    (h : (onTransport link).run.run c = (result, c')) : ∃ transport, c' = { c with transport } :=
  ⟨_, (congrArg Prod.snd h).symm⟩

/-- Finding the endpoint changes the directory at most. -/
theorem eq_of_resolve [Directory δ] {c c' : Client τ δ α} {result}
    (h : (resolve : Operation τ δ α Endpoint).run.run c = (result, c')) :
    ∃ directory, c' = { c with directory } := by
  let P : Client τ δ α → Prop := fun c' => ∃ directory, c' = { c with directory }
  have hlookup (appId : String) :
      (onDirectory (Directory.lookup appId) : Operation τ δ α (Option Endpoint)).Keeps P := by
    rintro _ ⟨directory, rfl⟩
    exact ⟨_, rfl⟩
  have hkeeps : (resolve : Operation τ δ α Endpoint).Keeps P := by
    refine Attempt.Keeps.get_bind fun c' h => ?_
    dsimp only
    split
    · exact h
    · refine (hlookup _).bind (fun endpoint? => ?_) c' h
      split
      · exact .pure _
      · exact .throw _
  have hafter := hkeeps c ⟨c.directory, rfl⟩
  rwa [h] at hafter

/-- What becomes of building the table, with the client that it leaves. -/
inductive Builds (c : Client τ δ α) : Except ClientError Unit × Client τ δ α → Prop
  /-- A table that has been built stays. -/
  | kept {table} (htable : c.table = some table) : Builds c (.ok (), c)
  | refused {e} (htable : c.table = none)
    (hinstall : Reaction.install c.subscriptions c.registry = .error e) :
    Builds c (.error (.routing e), c)
  | built {registry} (htable : c.table = none)
    (hinstall : Reaction.install c.subscriptions c.registry = .ok registry) :
    Builds c (.ok (), { c with registry := registry.build.2, table := some registry.build.1 })

theorem builds (c : Client τ δ α) :
    Builds c ((buildTable : Operation τ δ α Unit).run.run c) := by
  unfold buildTable
  rw [Attempt.run_bind, Attempt.run_get]
  dsimp only
  cases htable : c.table with
  | some table => exact .kept htable
  | none =>
    rw [Option.isNone_none, if_pos rfl, Attempt.run_bind, run_onRegistry]
    cases hinstall : Reaction.install c.subscriptions c.registry with
    | error e => exact .refused htable hinstall
    | ok registry => exact .built htable hinstall

theorem run_buildTable_of_some {c : Client τ δ α} {table : Table (HandlerState α)}
    (h : c.table = some table) : (buildTable : Operation τ δ α Unit).run.run c = (.ok (), c) := by
  have hbuilds := builds c
  generalize (buildTable : Operation τ δ α Unit).run.run c = run at hbuilds ⊢
  cases hbuilds with
  | kept => rfl
  | refused hnone | built hnone => cases h.symm.trans hnone

theorem run_buildTable_of_none {c : Client τ δ α} (h : c.table = none)
    {registry : Registry (HandlerState α)}
    (hinstall : Reaction.install c.subscriptions c.registry = .ok registry) :
    (buildTable : Operation τ δ α Unit).run.run c =
      (.ok (), { c with registry := registry.build.2, table := some registry.build.1 }) := by
  have hbuilds := builds c
  generalize (buildTable : Operation τ δ α Unit).run.run c = run at hbuilds ⊢
  cases hbuilds with
  | kept hsome => cases h.symm.trans hsome
  | refused _ hrefused => cases hinstall.symm.trans hrefused
  | built _ hinstalls =>
    obtain rfl := Except.ok.inj (hinstall.symm.trans hinstalls)
    rfl

/-- Building the table changes the registry and the table at most. -/
theorem eq_of_buildTable {c c' : Client τ δ α} {result}
    (h : (buildTable : Operation τ δ α Unit).run.run c = (result, c')) :
    ∃ registry table, c' = { c with registry, table } := by
  have hbuilds := builds c
  rw [h] at hbuilds
  cases hbuilds with
  | kept => exact ⟨c.registry, c.table, rfl⟩
  | refused => exact ⟨c.registry, c.table, rfl⟩
  | built => exact ⟨_, _, rfl⟩

/-! ## Registering -/

/-- What becomes of a registration, with the client that it leaves. -/
inductive Registers (made : Call α) (c : Client τ δ α) :
    Except ClientError Unit × Client τ δ α → Prop
  | closed (hsealed : c.registry.isSealed) :
    Registers made c (.error (.routing .alreadySealed), c)
  /-- Middleware is for more leading bits than a code has. -/
  | invalid {level} (hlevel : ¬ made.registers) :
    Registers made c (.error (.routing (.invalidLevel level)), c)
  | added (hopen : c.registry.isSealed = false) (handlers middleware subscriptions) :
    Registers made c (.ok (), { c with
      registry := { c.registry with handlers, middleware }
      subscriptions })

theorem registers_subscribe (made : Call α) (add : Subscriptions α → Subscriptions α)
    (c : Client τ δ α) : Registers made c ((subscribe add).run.run c) := by
  unfold subscribe
  rw [Attempt.run_bind, Attempt.run_get]
  dsimp only
  split
  · rename_i hsealed
    exact .closed hsealed
  · rename_i hopen
    exact .added (eq_false_of_ne_true hopen) _ _ _

theorem registers_perform [Transport τ] [Directory δ] {made : Call α} (h : made.isRegistration)
    (c : Client τ δ α) : Registers made c (made.perform.run.run c) := by
  cases made with
  | addHandler code handler =>
    change Registers _ c ((onRegistry (·.addHandler code handler)).run.run c)
    rw [run_onRegistry, Registry.addHandler]
    by_cases hsealed : c.registry.isSealed
    · rw [if_pos hsealed]
      exact .closed hsealed
    · rw [if_neg hsealed]
      exact .added (eq_false_of_ne_true hsealed) _ _ _
  | addMiddleware code level middleware =>
    change Registers _ c ((onRegistry (·.addMiddleware code level middleware)).run.run c)
    rw [run_onRegistry, Registry.addMiddleware]
    by_cases hsealed : c.registry.isSealed
    · rw [if_pos hsealed]
      exact .closed hsealed
    rw [if_neg hsealed]
    by_cases hlevel : maxLevel < level.toNat
    · rw [if_pos hlevel]
      refine .invalid ?_
      simpa [Call.registers, maxLevel] using hlevel
    · rw [if_neg hlevel]
      exact .added (eq_false_of_ne_true hsealed) _ _ _
  | onUserMessage command callback =>
    exact registers_subscribe _ (fun s => { s with messages := s.messages.add command callback }) c
  | onClientError code callback =>
    exact registers_subscribe _
      (fun s => { s with clientErrors := s.clientErrors.add code callback }) c
  | onServerError code callback =>
    exact registers_subscribe _
      (fun s => { s with serverErrors := s.serverErrors.add code callback }) c
  | start | tick | stop | sendRaw | send => cases h

/-! ## Writing -/

variable [Transport τ]

theorem run_write (bytes : Bytes) (c : Client τ δ α) :
    (write bytes).run.run c = match (Transport.deliver bytes).run.run c.transport with
      | (.ok (), transport) => (.ok (), { c with transport })
      | (.error e, transport) =>
        (.error (.transport e), { c with transport, session := c.session.recordFailedSend }) := by
  unfold write
  rw [Attempt.run_tryCatch, run_onTransport]
  rcases (Transport.deliver bytes).run.run c.transport with ⟨e | _, transport⟩ <;> rfl

theorem transport_write (bytes : Bytes) (c : Client τ δ α) :
    ((write bytes).run.run c).2.transport = ((Transport.deliver bytes).run.run c.transport).2 := by
  rw [run_write]
  rcases (Transport.deliver bytes).run.run c.transport with ⟨e | ⟨⟩, transport⟩ <;> rfl

/-- A connected client sends a packet by writing what it is encoded to. -/
theorem run_send_of_connected {packet : Packet} {bytes : Bytes} {c : Client τ δ α}
    (h : c.session.isConnected) (hencode : packet.encode = .ok bytes) :
    (send packet).run.run c = (write bytes).run.run c := by
  unfold send encoded
  rw [Attempt.run_bind, hencode]
  change (sendRaw bytes).run.run c = _
  unfold sendRaw
  rw [Attempt.run_bind, Attempt.run_get]
  simp only [h, if_true]

/-- Writing changes the transport, and counts one refusal at most. -/
theorem eq_of_write {bytes : Bytes} {c c' : Client τ δ α} {result}
    (h : (write bytes).run.run c = (result, c')) :
    ∃ transport refused,
      c' = { c with transport, session := c.session.withRefused refused } := by
  rw [run_write] at h
  rcases hdeliver : (Transport.deliver bytes).run.run c.transport with ⟨e | ⟨⟩, transport⟩
  · rw [hdeliver] at h
    exact ⟨transport, 1, (congrArg Prod.snd h).symm⟩
  · rw [hdeliver] at h
    exact ⟨transport, 0, (congrArg Prod.snd h).symm⟩

/-- Sending writes, or changes nothing. -/
theorem eq_of_sendRaw {bytes : Bytes} {c c' : Client τ δ α} {result}
    (h : (sendRaw bytes).run.run c = (result, c')) :
    ∃ transport refused,
      c' = { c with transport, session := c.session.withRefused refused } := by
  unfold sendRaw at h
  rw [Attempt.run_bind, Attempt.run_get] at h
  dsimp only at h
  split at h
  · exact eq_of_write h
  · exact ⟨c.transport, 0, (congrArg Prod.snd h).symm⟩

theorem eq_of_send {packet : Packet} {c c' : Client τ δ α} {result}
    (h : (send packet).run.run c = (result, c')) :
    ∃ transport refused,
      c' = { c with transport, session := c.session.withRefused refused } := by
  unfold send encoded at h
  rw [Attempt.run_bind] at h
  cases hencode : packet.encode with
  | error e =>
    rw [hencode] at h
    exact ⟨c.transport, 0, (congrArg Prod.snd h).symm⟩
  | ok frame =>
    rw [hencode] at h
    exact eq_of_sendRaw h

theorem run_authenticate (c : Client τ δ α) :
    (authenticate : Operation τ δ α Unit).run.run c =
      match Control.authenticate c.credential.token with
      | .ok frame => (write frame).run.run c
      | .error e => (.error (.wire e), c) := by
  unfold authenticate
  rw [Attempt.run_bind, Attempt.run_get]
  dsimp only
  cases Control.authenticate c.credential.token <;> rfl

theorem eq_of_authenticate {c c' : Client τ δ α} {result}
    (h : (authenticate : Operation τ δ α Unit).run.run c = (result, c')) :
    ∃ transport refused,
      c' = { c with transport, session := c.session.withRefused refused } := by
  rw [run_authenticate] at h
  split at h
  · exact eq_of_write h
  · exact ⟨c.transport, 0, (congrArg Prod.snd h).symm⟩

theorem run_orRelease (operation : Operation τ δ α Unit) (c : Client τ δ α) :
    (orRelease operation).run.run c = match operation.run.run c with
      | (.ok (), c') => (.ok (), c')
      | (.error e, c') => (.error e, c'.release) := by
  unfold orRelease
  rw [Attempt.run_tryCatch]
  rcases operation.run.run c with ⟨e | _, c'⟩ <;> rfl

/-! ## Starting -/

/-- The client with its session begun, and its first heartbeat interval too. -/
def begun (now : Instant) (c : Client τ δ α) : Client τ δ α :=
  { c with
    session := { c.session with
      phase := .connected
      heartbeat := c.session.heartbeat.reset now } }

omit [Transport τ] in
theorem run_beginSession {c : Client τ δ α} (hidle : c.session.phase = .idle) (now : Instant) :
    (do beginSession; onSession (·.resetHeartbeat now) : Operation τ δ α Unit).run.run c =
      (.ok (), c.begun now) := by
  have hbegin : c.session.begin = .ok { c.session with phase := .connected } := by
    rw [Session.begin, if_pos hidle]
  have hbegun : (beginSession : Operation τ δ α Unit).run.run c =
      (.ok (), { c with session := { c.session with phase := .connected } }) := by
    unfold beginSession
    rw [Attempt.run_bind, Attempt.run_get]
    dsimp only
    rw [hbegin]
    rfl
  rw [Attempt.run_bind, hbegun]
  rfl

/-- How far a start of an idle client comes, with its result and the client that it leaves. -/
inductive Starts [Directory δ] (now : Instant) (c : Client τ δ α) :
    Except ClientError Unit × Client τ δ α → Prop
  /-- There is no endpoint. -/
  | unresolved {e c₁} (hresolve : resolve.run.run c = (.error e, c₁)) : Starts now c (.error e, c₁)
  /-- The transport does not connect. -/
  | unconnected {endpoint c₁ e c₂} (hresolve : resolve.run.run c = (.ok endpoint, c₁))
    (hconnect : (onTransport (Transport.connect
      (c.settings.hostOverride.getD endpoint.host) endpoint.port)).run.run c₁ = (.error e, c₂)) :
    Starts now c (.error e, c₂)
  /-- The table cannot be built. -/
  | unbuilt {endpoint c₁ c₂ e c₃} (hresolve : resolve.run.run c = (.ok endpoint, c₁))
    (hconnect : (onTransport (Transport.connect
      (c.settings.hostOverride.getD endpoint.host) endpoint.port)).run.run c₁ = (.ok (), c₂))
    (hbuild : buildTable.run.run c₂ = (.error e, c₃)) : Starts now c (.error e, c₃)
  /-- The credential cannot be shown. -/
  | unauthenticated {endpoint c₁ c₂ c₃ e c₄} (hresolve : resolve.run.run c = (.ok endpoint, c₁))
    (hconnect : (onTransport (Transport.connect
      (c.settings.hostOverride.getD endpoint.host) endpoint.port)).run.run c₁ = (.ok (), c₂))
    (hbuild : buildTable.run.run c₂ = (.ok (), c₃))
    (hshow : authenticate.run.run c₃ = (.error e, c₄)) : Starts now c (.error e, c₄.release)
  /-- The session begins. -/
  | begun {endpoint c₁ c₂ c₃ c₄} (hresolve : resolve.run.run c = (.ok endpoint, c₁))
    (hconnect : (onTransport (Transport.connect
      (c.settings.hostOverride.getD endpoint.host) endpoint.port)).run.run c₁ = (.ok (), c₂))
    (hbuild : buildTable.run.run c₂ = (.ok (), c₃))
    (hshow : authenticate.run.run c₃ = (.ok (), c₄)) : Starts now c (.ok (), c₄.begun now)

theorem run_start_of_not_idle [Directory δ] {c : Client τ δ α} (h : c.session.phase ≠ .idle)
    (now : Instant) : (start now).run.run c = (.error (.session .alreadyStarted), c) := by
  unfold start
  rw [Attempt.run_bind, Attempt.run_get]
  simp only [h, ne_eq, not_false_eq_true, if_true, Attempt.run_throw]

theorem starts [Directory δ] {c : Client τ δ α} (hidle : c.session.phase = .idle)
    (now : Instant) : Starts now c ((start now).run.run c) := by
  unfold start
  rw [Attempt.run_bind, Attempt.run_get]
  simp only [hidle, ne_eq, not_true_eq_false, if_false]
  rw [Attempt.run_bind]
  rcases hresolve : (resolve : Operation τ δ α Endpoint).run.run c with ⟨e | endpoint, c₁⟩
  · exact .unresolved hresolve
  dsimp only
  rw [Attempt.run_bind]
  rcases hconnect : (onTransport (Transport.connect (c.settings.hostOverride.getD endpoint.host)
    endpoint.port) : Operation τ δ α Unit).run.run c₁ with ⟨e | ⟨⟩, c₂⟩
  · exact .unconnected hresolve hconnect
  dsimp only
  rw [Attempt.run_bind]
  rcases hbuild : (buildTable : Operation τ δ α Unit).run.run c₂ with ⟨e | ⟨⟩, c₃⟩
  · exact .unbuilt hresolve hconnect hbuild
  dsimp only
  rw [Attempt.run_bind, run_orRelease]
  rcases hshow : (authenticate : Operation τ δ α Unit).run.run c₃ with ⟨e | ⟨⟩, c₄⟩
  · exact .unauthenticated hresolve hconnect hbuild hshow
  dsimp only
  -- None of the parts has changed the phase.
  have hphase : c₄.session.phase = .idle := by
    obtain ⟨directory, rfl⟩ := eq_of_resolve hresolve
    obtain ⟨transport, rfl⟩ := eq_of_onTransport hconnect
    obtain ⟨registry, table, rfl⟩ := eq_of_buildTable hbuild
    obtain ⟨transport, refused, rfl⟩ := eq_of_authenticate hshow
    exact hidle
  rw [run_beginSession hphase]
  exact .begun hresolve hconnect hbuild hshow

/-- A start of which all parts succeed begins the session. -/
theorem run_start_of_parts [Directory δ] {c c₁ c₂ c₃ c₄ : Client τ δ α} {now : Instant}
    {endpoint : Endpoint} (hidle : c.session.phase = .idle)
    (hresolve : resolve.run.run c = (.ok endpoint, c₁))
    (hconnect : (onTransport (Transport.connect
      (c.settings.hostOverride.getD endpoint.host) endpoint.port)).run.run c₁ = (.ok (), c₂))
    (hbuild : buildTable.run.run c₂ = (.ok (), c₃))
    (hshow : authenticate.run.run c₃ = (.ok (), c₄)) :
    (start now).run.run c = (.ok (), c₄.begun now) := by
  have hstarts := starts hidle now
  generalize (start now).run.run c = run at hstarts ⊢
  cases hstarts with
  | unresolved hresolve' => cases hresolve.symm.trans hresolve'
  | unconnected hresolve' hconnect' =>
    cases hresolve.symm.trans hresolve'
    cases hconnect.symm.trans hconnect'
  | unbuilt hresolve' hconnect' hbuild' =>
    cases hresolve.symm.trans hresolve'
    cases hconnect.symm.trans hconnect'
    cases hbuild.symm.trans hbuild'
  | unauthenticated hresolve' hconnect' hbuild' hshow' =>
    cases hresolve.symm.trans hresolve'
    cases hconnect.symm.trans hconnect'
    cases hbuild.symm.trans hbuild'
    cases hshow.symm.trans hshow'
  | begun hresolve' hconnect' hbuild' hshow' =>
    cases hresolve.symm.trans hresolve'
    cases hconnect.symm.trans hconnect'
    cases hbuild.symm.trans hbuild'
    cases hshow.symm.trans hshow'
    rfl

/-- A start that fails leaves the session as it is, but for the refused writes, and what the
handlers know too. -/
theorem Starts.eq_of_error [Directory δ] {now : Instant} {c c' : Client τ δ α} {e : ClientError}
    (h : Starts now c (.error e, c')) :
    ∃ directory transport registry table assembler refused,
      (assembler = c.assembler ∨ assembler = c.assembler.reset) ∧
      c' = { c with
        directory, transport, registry, table, assembler
        session := c.session.withRefused refused } := by
  cases h with
  | unresolved hresolve =>
    obtain ⟨directory, rfl⟩ := eq_of_resolve hresolve
    exact ⟨directory, c.transport, c.registry, c.table, c.assembler, 0, .inl rfl, rfl⟩
  | unconnected hresolve hconnect =>
    obtain ⟨directory, rfl⟩ := eq_of_resolve hresolve
    obtain ⟨transport, rfl⟩ := eq_of_onTransport hconnect
    exact ⟨directory, transport, c.registry, c.table, c.assembler, 0, .inl rfl, rfl⟩
  | unbuilt hresolve hconnect hbuild =>
    obtain ⟨directory, rfl⟩ := eq_of_resolve hresolve
    obtain ⟨transport, rfl⟩ := eq_of_onTransport hconnect
    obtain ⟨registry, table, rfl⟩ := eq_of_buildTable hbuild
    exact ⟨directory, transport, registry, table, c.assembler, 0, .inl rfl, rfl⟩
  | unauthenticated hresolve hconnect hbuild hshow =>
    obtain ⟨directory, rfl⟩ := eq_of_resolve hresolve
    obtain ⟨transport, rfl⟩ := eq_of_onTransport hconnect
    obtain ⟨registry, table, rfl⟩ := eq_of_buildTable hbuild
    obtain ⟨transport, refused, rfl⟩ := eq_of_authenticate hshow
    exact ⟨directory, _, registry, table, c.assembler.reset, refused, .inr rfl, rfl⟩

/-! ## Ticking -/

/-- How far a tick comes, with its result and the client that it leaves. -/
inductive Ticks (now : Instant) (clock : Clock) (c : Client τ δ α) :
    Except ClientError Unit × Client τ δ α → Prop
  /-- There is no session. -/
  | offline (hover : ¬ c.session.isConnected) :
    Ticks now clock c (.ok (), { c with session := c.session.resetHeartbeat now })
  /-- The transport fails when it is given time. -/
  | stuck {e c₁} (hconnected : c.session.isConnected)
    (hupdate : (onTransport Transport.update).run.run c = (.error e, c₁)) :
    Ticks now clock c (.error e, c₁)
  /-- It fails while something arrives. -/
  | broken {c₁ e} (hconnected : c.session.isConnected)
    (hupdate : (onTransport Transport.update).run.run c = (.ok (), c₁))
    (hpump : (c₁.pump clock).1 = .error e) :
    Ticks now clock c (.error (.transport e), (c₁.pump clock).2)
  /-- What has arrived ends the session. -/
  | ended {c₁} (hconnected : c.session.isConnected)
    (hupdate : (onTransport Transport.update).run.run c = (.ok (), c₁))
    (hpump : (c₁.pump clock).1 = .ok ()) (hover : ¬ (c₁.pump clock).2.session.isConnected) :
    Ticks now clock c (.ok (), (c₁.pump clock).2)
  /-- The session goes on. -/
  | beats {c₁} (hconnected : c.session.isConnected)
    (hupdate : (onTransport Transport.update).run.run c = (.ok (), c₁))
    (hpump : (c₁.pump clock).1 = .ok ()) (hstill : (c₁.pump clock).2.session.isConnected) :
    Ticks now clock c ((beat now clock.wall).run.run (c₁.pump clock).2)

theorem run_handleArrived (clock : Clock) (c : Client τ δ α) :
    (handleArrived clock).run.run c =
      ((c.pump clock).1.mapError .transport, (c.pump clock).2) := rfl

theorem ticks (now : Instant) (clock : Clock) (c : Client τ δ α) :
    Ticks now clock c ((tick now clock).run.run c) := by
  unfold tick
  rw [Attempt.run_bind, Attempt.run_get]
  by_cases hconnected : c.session.isConnected
  · simp only [hconnected, if_true]
    rw [Attempt.run_bind]
    rcases hupdate : (onTransport Transport.update).run.run c with ⟨e | ⟨⟩, c₁⟩
    · exact .stuck hconnected hupdate
    dsimp only
    rw [Attempt.run_bind, run_handleArrived]
    cases hpump : (c₁.pump clock).1 with
    | error e => exact .broken hconnected hupdate hpump
    | ok =>
      change Ticks now clock c ((get >>= fun c' : Client τ δ α =>
        if c'.session.isConnected then beat now clock.wall else pure () :
          Operation τ δ α Unit).run.run (c₁.pump clock).2)
      rw [Attempt.run_bind, Attempt.run_get]
      by_cases hstill : (c₁.pump clock).2.session.isConnected
      · simp only [hstill, if_true]
        exact .beats hconnected hupdate hpump hstill
      · simp only [hstill, Bool.false_eq_true, if_false]
        exact .ended hconnected hupdate hpump hstill
  · simp only [hconnected, Bool.false_eq_true, if_false]
    exact .offline hconnected

/-! ## Stopping -/

theorem run_stop_of_not_connected {c : Client τ δ α} (h : ¬ c.session.isConnected) :
    (stop : Operation τ δ α Unit).run.run c = (.ok (), c) := by
  unfold stop
  rw [Attempt.run_bind, Attempt.run_get]
  simp only [h, Bool.false_eq_true, if_false, Attempt.run_pure]

/-- Whatever becomes of the closing frame, the transport is released after it. -/
theorem run_stop {c : Client τ δ α} (h : c.session.isConnected) :
    (stop : Operation τ δ α Unit).run.run c =
      let farewell :=
        (write Control.closing).run.run { c with session := c.session.stop }
      (farewell.1, farewell.2.release) := by
  have hsession : (onSession (·.stop) : Operation τ δ α Unit).run.run c =
      (.ok (), { c with session := c.session.stop }) := rfl
  unfold stop
  rw [Attempt.run_bind, Attempt.run_get]
  simp only [h, if_true]
  rw [Attempt.run_bind, hsession]
  dsimp only
  rw [Attempt.run_bind, run_orRelease]
  rcases (write Control.closing).run.run { c with session := c.session.stop } with
    ⟨e | ⟨⟩, c'⟩ <;> rfl

end Client

end Multiplayer
