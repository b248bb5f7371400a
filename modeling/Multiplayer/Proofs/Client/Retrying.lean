import Multiplayer.Proofs.Client.Sealing

/-!
# Starting again

A start that fails may have built the table, opened the transport, or sent a part of the credential.
None of it matters to a later start that succeeds.

* `Client.Tried`: what is left of a client after attempts in vain; `tried_step` says that one more
  step in vain leaves no more.
* `start_of_tried`: a start that succeeds after them does what it would have done without them.
* `Client.Equipped`: then everything is installed, and nothing twice.
* `receipts_deed`: nothing is received in vain.
* `retry_starts_afresh` is the result, for any run that leaves a client idle, and whatever others do
  in the meantime.
-/

namespace Multiplayer

variable {τ δ α : Type}

/-- The deed neither begins the session nor registers anything. -/
structure Deed.InVain (d : Deed τ δ α) : Prop where
  begins : ¬ d.isBegin
  registers : d.call?.any Call.isRegistration → d.result ≠ .ok ()

/-- Whether something was to be received. -/
def Exchange.isReceipt : Exchange → Bool
  | .receive .. => true
  | _ => false

/-- How often something was to be received. -/
def receipts (log : List Exchange) : Nat := log.countP Exchange.isReceipt

/-- The deed leaves the client idle, and nothing has reached its handlers. -/
structure Deed.IsQuiet (d : Deed (Logged τ) δ α) : Prop where
  idle : d.after.session.phase = .idle
  unheard : ∀ exchange ∈ d.used, ¬ exchange.isReceipt
  /-- Others may have changed the state of the handlers. -/
  state : d.call?.isSome → d.after.state = d.before.state

theorem receipts_append (log more : List Exchange) :
    receipts (log ++ more) = receipts log + receipts more :=
  List.countP_append

namespace Client

/-! ## After attempts in vain -/

/-- The registry and the table of a client, as they are or with the table that would be built. -/
inductive Setup (c : Client τ δ α) (registry : Registry (HandlerState α))
    (table? : Option (Table (HandlerState α))) : Prop
  | same (hregistry : registry = c.registry) (htable : table? = c.table)
  | built {installed} (hnone : c.table = none)
    (hinstall : Reaction.install c.subscriptions c.registry = .ok installed)
    (hregistry : registry = installed.build.2) (htable : table? = some installed.build.1)

/-- The second client is the first one after attempts that came to nothing. -/
structure Tried (c c' : Client τ δ α) : Prop where
  settings : c'.settings = c.settings
  credential : c'.credential = c.credential
  subscriptions : c'.subscriptions = c.subscriptions
  setup : Setup c c'.registry c'.table
  assembler : c'.assembler = c.assembler
  /-- Ticks have moved the heartbeat interval, and refused writes were counted. -/
  session : ∃ last refused, c'.session = (c.session.resetHeartbeat last).withRefused refused

namespace Tried

variable {c c' c'' : Client τ δ α}

theorem refl (c : Client τ δ α) : Tried c c :=
  ⟨rfl, rfl, rfl, .same rfl rfl, rfl, c.session.heartbeat.last, 0, rfl⟩

theorem phase (h : Tried c c') : c'.session.phase = c.session.phase := by
  obtain ⟨last, refused, hsession⟩ := h.session
  rw [hsession]
  rfl

theorem of_resolve [Directory δ] (h : Tried c c') {result}
    (hrun : (resolve : Operation τ δ α Endpoint).run.run c' = (result, c'')) : Tried c c'' := by
  obtain ⟨directory, rfl⟩ := eq_of_resolve hrun
  exact ⟨h.settings, h.credential, h.subscriptions, h.setup, h.assembler, h.session⟩

theorem of_onTransport {β : Type} (h : Tried c c') {link : Link τ β} {result}
    (hrun : (onTransport link).run.run c' = (result, c'')) : Tried c c'' := by
  obtain ⟨transport, rfl⟩ := eq_of_onTransport hrun
  exact ⟨h.settings, h.credential, h.subscriptions, h.setup, h.assembler, h.session⟩

theorem of_buildTable (h : Tried c c') {result}
    (hrun : (buildTable : Operation τ δ α Unit).run.run c' = (result, c'')) : Tried c c'' := by
  have hbuilds := builds c'
  rw [hrun] at hbuilds
  cases hbuilds with
  | kept => exact h
  | refused => exact h
  | built hnone hinstall =>
    cases h.setup with
    | built _ _ _ htable => cases hnone.symm.trans htable
    | same hregistry htable =>
      rw [h.subscriptions, hregistry] at hinstall
      exact ⟨h.settings, h.credential, h.subscriptions,
        .built (htable.symm.trans hnone) hinstall rfl rfl, h.assembler, h.session⟩

variable [Transport τ]

theorem of_authenticate (h : Tried c c') {result}
    (hrun : (authenticate : Operation τ δ α Unit).run.run c' = (result, c'')) : Tried c c'' := by
  obtain ⟨transport, more, rfl⟩ := eq_of_authenticate hrun
  obtain ⟨last, refused, hsession⟩ := h.session
  refine ⟨h.settings, h.credential, h.subscriptions, h.setup, h.assembler, last, refused + more, ?_⟩
  change c'.session.withRefused more = _
  rw [hsession]
  simp only [Session.withRefused, Nat.add_assoc]

theorem release (h : Tried c c') (hempty : c.assembler = .empty) : Tried c c'.release := by
  refine ⟨h.settings, h.credential, h.subscriptions, h.setup, ?_, h.session⟩
  change c'.assembler.reset = c.assembler
  rw [h.assembler, hempty]
  rfl

/-- A start that fails is one more attempt in vain. -/
theorem of_start [Directory δ] (h : Tried c c') (hidle : c.session.phase = .idle)
    (hempty : c.assembler = .empty) {now : Instant} {e : ClientError}
    (hrun : (start now).run.run c' = (.error e, c'')) : Tried c c'' := by
  have hstarts := starts (h.phase.trans hidle) now
  rw [hrun] at hstarts
  cases hstarts with
  | unresolved hresolve => exact h.of_resolve hresolve
  | unconnected hresolve hconnect => exact (h.of_resolve hresolve).of_onTransport hconnect
  | unbuilt hresolve hconnect hbuild =>
    exact ((h.of_resolve hresolve).of_onTransport hconnect).of_buildTable hbuild
  | unauthenticated hresolve hconnect hbuild hshow =>
    have hbuilt := ((h.of_resolve hresolve).of_onTransport hconnect).of_buildTable hbuild
    exact (hbuilt.of_authenticate hshow).release hempty

end Tried

/-! ## Steps in vain -/

section

variable [Transport τ] [Directory δ] {c c' : Client τ δ α}

/-- A step in vain is one more attempt in vain, and a call in vain does not reach the handlers. -/
theorem tried_step (hidle : c.session.phase = .idle) (hempty : c.assembler = .empty)
    (h : Tried c c') {step : Step τ δ α} (hvain : (step.deed c').InVain) :
    Tried c (step.deed c').after ∧ (step.call?.isSome → (step.deed c').after.state = c'.state) := by
  cases step with
  | shared =>
    exact ⟨⟨h.settings, h.credential, h.subscriptions, h.setup, h.assembler, h.session⟩, nofun⟩
  | call made =>
    have hover : ¬ c'.session.isConnected := by simp [Session.isConnected, h.phase, hidle]
    have hidles := idles hover made
    generalize hrun : made.perform.run.run c' = run at hidles
    have hafter : ((Step.call made).deed c').after = run.2 := congrArg Prod.snd hrun
    have hresult : ((Step.call made).deed c').result = run.1 := congrArg Prod.fst hrun
    rw [hafter]
    cases hidles with
    | same => exact ⟨h, fun _ => rfl⟩
    | registered hregistration => exact absurd hresult (hvain.registers hregistration)
    | ticked now =>
      obtain ⟨last, refused, hsession⟩ := h.session
      refine ⟨⟨h.settings, h.credential, h.subscriptions, h.setup, h.assembler, now, refused, ?_⟩,
        fun _ => rfl⟩
      rw [hsession]
      rfl
    | started now hmade =>
      subst hmade
      have hstarts := starts (h.phase.trans hidle) now
      rcases hstart : (start now).run.run c' with ⟨e | ⟨⟩, c''⟩
      · refine ⟨h.of_start hidle hempty hstart, fun _ => ?_⟩
        rw [hstart] at hstarts
        obtain ⟨_, _, _, _, _, _, -, rfl⟩ := hstarts.eq_of_error
        rfl
      · rw [hstart] at hresult
        exact absurd (by rw [Deed.isBegin, hresult]; rfl) hvain.begins

/-- Nothing of a unit is there before the session begins. -/
def Still (c : Client τ δ α) : Prop := c.session.phase = .idle → c.assembler = .empty

theorem still_step (h : c.Still) (step : Step τ δ α) : (step.deed c).after.Still := by
  intro hafter
  obtain ⟨hidle, _, _, _, _, _, _, assembler, _, _, hassembler, heq⟩ := eq_of_still_idle hafter
  rw [h hidle] at hassembler
  rw [heq]
  exact hassembler.elim id id

/-! ## A start that succeeds -/

/-- A client with the registry, the table and the session of another one. -/
def renewed (c e : Client τ δ α) : Client τ δ α :=
  { e with registry := c.registry, table := c.table, session := c.session }

omit [Transport τ] in
theorem resolve_renewed {e e' : Client τ δ α} {result} (c : Client τ δ α)
    (h : (resolve : Operation τ δ α Endpoint).run.run e = (result, e')) :
    (resolve : Operation τ δ α Endpoint).run.run (c.renewed e) = (result, c.renewed e') := by
  have hmirrors := mirrors_resolve (f := renewed c) (fun _ => rfl) (fun _ _ => rfl) (fun _ => rfl) e
  rwa [h] at hmirrors

omit [Transport τ] [Directory δ] in
theorem onTransport_renewed {β : Type} {link : Link τ β} {e e' : Client τ δ α} {result}
    (c : Client τ δ α) (h : (onTransport link).run.run e = (result, e')) :
    (onTransport link).run.run (c.renewed e) = (result, c.renewed e') := by
  rw [run_onTransport] at h ⊢
  obtain ⟨rfl, rfl⟩ := Prod.mk.inj h
  rfl

omit [Transport τ] [Directory δ] in
/-- If the table has been built before, it is the one that would be built now. -/
theorem buildTable_renewed {e e' : Client τ δ α} (h : Tried c e)
    (hrun : (buildTable : Operation τ δ α Unit).run.run e = (.ok (), e')) :
    (buildTable : Operation τ δ α Unit).run.run (c.renewed e) =
      (.ok (), { e' with session := c.session }) := by
  have hinstalls {registry}
      (hinstall : Reaction.install c.subscriptions c.registry = .ok registry) :
      Reaction.install (c.renewed e).subscriptions (c.renewed e).registry = .ok registry := by
    rw [← hinstall, ← h.subscriptions]
    rfl
  have hbuilds := builds e
  rw [hrun] at hbuilds
  cases h.setup with
  | built hnone hinstall hregistry htable =>
    cases hbuilds with
    | built hunbuilt => cases hunbuilt.symm.trans htable
    | kept =>
      rw [run_buildTable_of_none (c := c.renewed e) hnone (hinstalls hinstall), ← hregistry,
        ← htable]
      rfl
  | same hregistry htable =>
    cases hbuilds with
    | kept hbuilt =>
      rw [run_buildTable_of_some (c := c.renewed e) (htable.symm.trans hbuilt), renewed,
        ← hregistry, ← htable]
    | built hunbuilt hinstall =>
      rw [h.subscriptions, hregistry] at hinstall
      rw [run_buildTable_of_none (c := c.renewed e) (htable.symm.trans hunbuilt)
        (hinstalls hinstall)]
      rfl

omit [Directory δ] in
/-- Showing the credential does not depend on the session. -/
theorem authenticate_renewed {e e' : Client τ δ α} (session : Session)
    (h : (authenticate : Operation τ δ α Unit).run.run e = (.ok (), e')) :
    (authenticate : Operation τ δ α Unit).run.run { e with session } =
      (.ok (), { e' with session }) ∧ e'.session = e.session := by
  rw [run_authenticate] at h ⊢
  cases hframe : Control.authenticate e.credential.token with
  | error =>
    rw [hframe] at h
    cases congrArg Prod.fst h
  | ok frame =>
    rw [hframe] at h
    dsimp only at h ⊢
    rw [run_write] at h ⊢
    rcases hdeliver : (Transport.deliver frame).run.run e.transport with ⟨_ | ⟨⟩, transport⟩
    · rw [hdeliver] at h
      cases congrArg Prod.fst h
    · rw [hdeliver] at h
      obtain rfl := congrArg Prod.snd h
      exact ⟨rfl, rfl⟩

/-- A start that succeeds after attempts in vain does what it would have done without them. -/
theorem start_of_tried (hidle : c.session.phase = .idle) (h : Tried c c') {now : Instant}
    {begun : Client τ δ α} (hrun : (start now).run.run c' = (.ok (), begun)) :
    ∃ refused direct, (start now).run.run
        { c with transport := c'.transport, directory := c'.directory, state := c'.state } =
          (.ok (), direct) ∧ begun = direct.viewed (fun t => t) refused := by
  have hdirect : c.renewed c' =
      { c with transport := c'.transport, directory := c'.directory, state := c'.state } := by
    simp only [renewed, h.settings, h.credential, h.subscriptions, h.assembler]
  have hstarts := starts (h.phase.trans hidle) now
  rw [hrun] at hstarts
  rw [← hdirect]
  cases hstarts with
  | @begun endpoint c₁ c₂ c₃ c₄ hresolve hconnect hbuild hshow =>
    have hconnected : Tried c c₂ := (h.of_resolve hresolve).of_onTransport hconnect
    have hbuild' := buildTable_renewed hconnected hbuild
    obtain ⟨hshow', hsession⟩ := authenticate_renewed c.session hshow
    obtain ⟨last, refused, htried⟩ := (hconnected.of_buildTable hbuild).session
    refine ⟨refused, _, run_start_of_parts hidle (resolve_renewed c hresolve)
      (onTransport_renewed c hconnect) hbuild' hshow', ?_⟩
    rw [htried] at hsession
    -- The heartbeat interval begins anew with the session.
    simp only [begun, viewed, hsession]
    rfl

/-- What a client has after its start, seen from before it: the table is built from what the
application has registered, and every reaction to what it has subscribed to is installed once. -/
structure Equipped (c begun : Client τ δ α) : Prop where
  handlers : begun.registry.handlers = c.registry.handlers
  middleware : begun.registry.middleware = c.registry.middleware
  reactions : ∀ entry ∈ Reaction.all c.subscriptions,
    begun.registry.builtins[entry.1.code]? = some [entry.2]
  table : begun.table = some begun.registry.table

theorem equipped_of_start (h : c.Registered Tabled) (hidle : c.session.phase = .idle)
    {now : Instant} {begun : Client τ δ α} (hrun : (start now).run.run c = (.ok (), begun)) :
    Equipped c begun := by
  have hstarts := starts hidle now
  rw [hrun] at hstarts
  cases hstarts with
  | @begun endpoint c₁ c₂ c₃ c₄ hresolve hconnect hbuild hshow =>
    let P : Registry (HandlerState α) → Subscriptions α → Option (Table (HandlerState α)) → Prop :=
      fun registry subscriptions _ => registry = c.registry ∧ subscriptions = c.subscriptions
    obtain ⟨hregistry, hsubscriptions⟩ : c₂.Registered P :=
      registered_connected ⟨rfl, rfl⟩ hresolve hconnect
    obtain ⟨_, hbuilt, htabled, hsealed, hhandlers, hmiddleware⟩ :=
      tabled_buildTable (registered_connected h hresolve hconnect)
    obtain rfl := congrArg Prod.snd (hbuild.symm.trans hbuilt)
    have hsame : c₃.subscriptions = c.subscriptions := by
      obtain ⟨_, _, rfl⟩ := eq_of_buildTable hbuild
      exact hsubscriptions
    cases htable : c₃.table with
    | none =>
      rw [(htabled.unbuilt htable).1] at hsealed
      cases hsealed
    | some table =>
      obtain ⟨-, rfl, hbuiltins⟩ := htabled.built table htable
      obtain ⟨_, _, rfl⟩ := eq_of_authenticate hshow
      refine ⟨hhandlers.trans (congrArg _ hregistry), hmiddleware.trans (congrArg _ hregistry), ?_,
        htable⟩
      intro entry hentry
      change c₃.registry.builtins[entry.1.code]? = _
      rw [hbuiltins, hsame]
      exact Reaction.getElem?_addAll (Reaction.nodup_all _) hentry (by simp)

end

/-! ## Nothing is received in vain -/

section

variable [Transport τ]

theorem receipts_deliver (n : Nat) (data : Bytes) :
    (Transport.deliver data : Link (Logged τ) Unit).Keeps fun t => receipts t.log = n := by
  refine Transport.keeps_deliver (fun data t h => ?_) data
  rw [Logged.run_send, receipts_append, h]
  rfl

theorem receipts_authenticate {c c' : Client (Logged τ) δ α} {result}
    (h : (authenticate : Operation (Logged τ) δ α Unit).run.run c = (result, c')) :
    receipts c'.transport.log = receipts c.transport.log := by
  rw [run_authenticate] at h
  split at h
  · rename_i frame _
    obtain rfl := congrArg Prod.snd h
    rw [transport_write]
    exact receipts_deliver _ frame c.transport rfl
  · obtain rfl := congrArg Prod.snd h
    rfl

/-- Starting receives nothing. -/
theorem receipts_start [Directory δ] {c : Client (Logged τ) δ α} (hidle : c.session.phase = .idle)
    (now : Instant) :
    receipts ((start now).run.run c).2.transport.log = receipts c.transport.log := by
  have hconnected {c₁ c₂ : Client (Logged τ) δ α} {host : String} {port : UInt16} {resolved}
      {connected} (hresolve : resolve.run.run c = (resolved, c₁))
      (hconnect : (onTransport (Transport.connect host port)).run.run c₁ = (connected, c₂)) :
      receipts c₂.transport.log = receipts c.transport.log := by
    obtain ⟨_, hlog, -⟩ := log_connect hresolve hconnect
    rw [hlog, receipts_append]
    rfl
  have hbuilt {c₂ c₃ : Client (Logged τ) δ α} {result}
      (hbuild : buildTable.run.run c₂ = (result, c₃)) :
      receipts c₃.transport.log = receipts c₂.transport.log := by
    obtain ⟨_, _, rfl⟩ := eq_of_buildTable hbuild
    rfl
  have hreleased (c : Client (Logged τ) δ α) :
      receipts c.release.transport.log = receipts c.transport.log := by
    obtain ⟨_, hlog⟩ := log_release c
    rw [hlog, receipts_append]
    rfl
  have hstarts := starts hidle now
  generalize (start now).run.run c = run at hstarts ⊢
  cases hstarts with
  | unresolved hresolve =>
    obtain ⟨_, rfl⟩ := eq_of_resolve hresolve
    rfl
  | unconnected hresolve hconnect => exact hconnected hresolve hconnect
  | unbuilt hresolve hconnect hbuild => exact (hbuilt hbuild).trans (hconnected hresolve hconnect)
  | unauthenticated hresolve hconnect hbuild hshow =>
    have hshown := (receipts_authenticate hshow).trans (hbuilt hbuild)
    exact (hreleased _).trans (hshown.trans (hconnected hresolve hconnect))
  | begun hresolve hconnect hbuild hshow =>
    have hshown := (receipts_authenticate hshow).trans (hbuilt hbuild)
    exact hshown.trans (hconnected hresolve hconnect)

theorem receipts_deed [Directory δ] {c : Client (Logged τ) δ α} (hidle : c.session.phase = .idle)
    (step : Step τ δ α) : receipts (step.logged.deed c).used = 0 := by
  have hsame : receipts (step.logged.deed c).after.transport.log = receipts c.transport.log := by
    cases step with
    | shared => rfl
    | call made =>
      have hover : ¬ c.session.isConnected := by simp [Session.isConnected, hidle]
      have hidles := idles hover made
      change receipts (made.perform.run.run c).2.transport.log = receipts c.transport.log
      generalize made.perform.run.run c = run at hidles ⊢
      cases hidles with
      | same => rfl
      | ticked => rfl
      | registered => rfl
      | started now => exact receipts_start hidle now
  have hlog : (step.logged.deed c).after.transport.log =
      c.transport.log ++ (step.logged.deed c).used :=
    (deed_accounts (cuts_shorter τ) step c).log
  rw [hlog, receipts_append] at hsame
  omega

/-! ## Whole runs -/

variable [Directory δ]

/-- All that happens in vain leaves a client after attempts in vain. -/
theorem tried_after {c c' : Client (Logged τ) δ α} (hidle : c.session.phase = .idle)
    (hempty : c.assembler = .empty) (h : Tried c c') {steps : List (Step τ δ α)}
    (hvain : ∀ d ∈ c'.history (steps.map Step.logged), d.InVain) :
    Tried c (c'.after (steps.map Step.logged)) ∧
      ∀ d ∈ c'.history (steps.map Step.logged), d.IsQuiet := by
  induction steps generalizing c' with
  | nil => exact ⟨h, List.forall_mem_nil _⟩
  | cons step steps ih =>
    rw [List.map_cons, history, List.forall_mem_cons] at hvain
    obtain ⟨htried, hstate⟩ := tried_step hidle hempty h hvain.1
    obtain ⟨hafter, hquiet⟩ := ih htried hvain.2
    refine ⟨hafter, ?_⟩
    rw [List.map_cons, history, List.forall_mem_cons]
    refine ⟨⟨htried.phase.trans hidle, ?_, hstate⟩, hquiet⟩
    have hreceipts := receipts_deed (h.phase.trans hidle) step
    exact List.countP_eq_zero.1 hreceipts

/-- **A start that fails does not matter later.**  A registration is accepted until a start gets a
connection.  After attempts in vain, which are quiet, a start that succeeds is one that succeeds
without them, and all that follows is the same except for the refused writes on record. -/
theorem retry_starts_afresh (b : Builder) (credential : Credential) (transport : τ) (directory : δ)
    (app : α) (built : Instant) (steps between : List (Step τ δ α)) :
    let fresh := b.build credential (Logged.start transport) directory app built
    let history := fresh.history (steps.map Step.logged)
    let c := fresh.after (steps.map Step.logged)
    let attempts := c.history (between.map Step.logged)
    let tried := c.after (between.map Step.logged)
    history.map (Deed.map unlogged) =
        (b.build credential transport directory app built).history steps ∧
      (∀ past d, past ++ [d] <+: history → d.registers →
        ((∃ e ∈ past, e.Connects) →
          d.result = .error (.routing .alreadySealed) ∧ d.after = d.before) ∧
        ((∀ e ∈ past, ¬ e.Connects) → d.result = .ok ())) ∧
      (c.session.phase = .idle → (∀ d ∈ attempts, d.InVain) →
        (∀ d ∈ attempts, d.IsQuiet) ∧
        ∀ now begun, (start now).run.run tried = (.ok (), begun) →
          Equipped c begun ∧
          ∃ refused direct, (start now).run.run { c with
              transport := tried.transport
              directory := tried.directory
              state := tried.state } = (.ok (), direct) ∧
            begun = direct.viewed (fun t => t) refused ∧
            ∀ later, begun.history later =
              (direct.history later).map (Deed.map (viewed (fun t => t) refused))) := by
  intro fresh history c attempts tried
  have hfresh : fresh.Registered Tabled := tabled_build ..
  have hstep : ∀ step ∈ steps.map Step.logged, ∀ c : Client (Logged τ) δ α,
      c.Registered Tabled ∧ c.Still →
        True ∧ (step.deed c).after.Registered Tabled ∧ (step.deed c).after.Still := by
    intro step hmem c ⟨htabled, hstill⟩
    obtain ⟨step, -, rfl⟩ := List.mem_map.1 hmem
    exact ⟨trivial, tabled_deed htabled step.logged, still_step hstill step.logged⟩
  obtain ⟨htabled, hstill⟩ : c.Registered Tabled ∧ c.Still :=
    (forall_history (Q := fun _ => True) hstep ⟨hfresh, fun _ => rfl⟩).2
  refine ⟨history_unlogged steps fresh, ?_, ?_⟩
  · intro past d hpast hregisters
    obtain ⟨hsealed, step, hdeed⟩ := sealed_before hfresh hpast
    have hopen : ¬ fresh.registry.isSealed := Bool.false_ne_true
    rw [or_iff_right hopen] at hsealed
    rw [hdeed] at hregisters
    obtain ⟨hclosed, haccepted⟩ := result_of_registers hregisters
    rw [← hdeed] at hclosed haccepted
    refine ⟨fun h => hclosed (hsealed.2 h), fun h => haccepted ?_⟩
    refine eq_false_of_ne_true fun h' => ?_
    obtain ⟨e, hmem, hconnects⟩ := hsealed.1 h'
    exact h e hmem hconnects
  · intro hidle hvain
    obtain ⟨htried, hquiet⟩ := tried_after hidle (hstill hidle) (.refl c) hvain
    refine ⟨hquiet, fun now begun hbegun => ?_⟩
    obtain ⟨refused, direct, hdirect, rfl⟩ := start_of_tried hidle htried hbegun
    have hequipped := equipped_of_start (c := { c with
      transport := tried.transport
      directory := tried.directory
      state := tried.state }) htabled hidle hdirect
    refine ⟨⟨hequipped.handlers, hequipped.middleware, hequipped.reactions, hequipped.table⟩,
      refused, direct, hdirect, rfl, fun later => history_withRefused refused later direct⟩

end

def novice : Client (Logged Pipe) FixedDirectory Nat :=
  (default : Builder).build (Credential.parse "cDpaRHBaVkhCclZraENOZz09") (Logged.start Pipe.empty)
    ⟨some (.ofAddress "localhost" 7000)⟩ 0 ⟨0⟩

/-- The application counts messages with one command. -/
def preparation : List (Step Pipe FixedDirectory Nat) :=
  [.call (.onUserMessage 7 fun _ => modify fun s => { s with app := s.app + 1 })]

/-- At first nobody knows the endpoint.  Then there is a connection, but the credential is refused,
and it is too late to count more. -/
def setbacks : List (Step Pipe FixedDirectory Nat) :=
  [.shared (fun t => t) (fun _ => ⟨none⟩) (fun s => s), .call (.start ⟨1⟩),
    .shared (fun t => t) (fun _ => ⟨some (.ofAddress "localhost" 7000)⟩) (fun s => s),
    .limit (some 0), .call (.start ⟨2⟩),
    .call (.onUserMessage 8 fun _ => modify fun s => { s with app := s.app + 1 }),
    .call (.tick ⟨3⟩ ⟨⟨3⟩, default⟩), .limit none]

def setbackHistory : List (Deed (Logged Pipe) FixedDirectory Nat) :=
  novice.history ((preparation ++ setbacks).map Step.logged)

theorem retry_starts_afresh_setbacks :
    let c := novice.after (preparation.map Step.logged)
    let attempts := c.history (setbacks.map Step.logged)
    let tried := c.after (setbacks.map Step.logged)
    (∃ d ∈ setbackHistory, d.registers ∧ d.result = .ok ()) ∧
      (∃ d ∈ setbackHistory, d.registers ∧
        d.result = .error (.routing .alreadySealed) ∧ d.after = d.before) ∧
      attempts.map (·.result) =
        [.ok (), .error (.session (.endpointNotFound "cDpkOmE=")), .ok (), .ok (),
          .error (.transport (.writeStalled 27)), .error (.routing .alreadySealed), .ok (),
          .ok ()] ∧
      (∀ d ∈ attempts, d.IsQuiet) ∧
      ∃ begun, (start ⟨4⟩).run.run tried = (.ok (), begun) ∧ begun.session.failedSends = 1 ∧
        Equipped c begun ∧
        ∃ refused direct, (start ⟨4⟩).run.run { c with
            transport := tried.transport
            directory := tried.directory
            state := tried.state } = (.ok (), direct) ∧
          begun = direct.viewed (fun t => t) refused := by
  intro c attempts tried
  obtain ⟨-, hregistered, -⟩ := retry_starts_afresh (default : Builder)
    (Credential.parse "cDpaRHBaVkhCclZraENOZz09") Pipe.empty
    (⟨some (.ofAddress "localhost" 7000)⟩ : FixedDirectory) 0 ⟨0⟩ (preparation ++ setbacks) []
  obtain ⟨-, -, hretry⟩ := retry_starts_afresh (default : Builder)
    (Credential.parse "cDpaRHBaVkhCclZraENOZz09") Pipe.empty
    (⟨some (.ofAddress "localhost" 7000)⟩ : FixedDirectory) 0 ⟨0⟩ preparation setbacks
  have hpast (i : Fin setbackHistory.length) :
      setbackHistory.take i ++ [setbackHistory.get i] <+: setbackHistory := by
    have htake : setbackHistory.take i ++ [setbackHistory.get i] = setbackHistory.take (i + 1) :=
      List.take_append_getElem i.isLt
    rw [htake]
    exact List.take_prefix _ _
  let first : Fin setbackHistory.length := ⟨0, by decide +kernel⟩
  let late : Fin setbackHistory.length := ⟨6, by decide +kernel⟩
  have hused : .connect "localhost" 7000 (.ok ()) ∈
      ((setbackHistory.take 6).get ⟨5, by decide +kernel⟩).used := by decide +kernel
  have hconnects : ∃ e ∈ setbackHistory.take late, e.Connects :=
    ⟨_, List.get_mem .., ⟨2⟩, "localhost", 7000, rfl, hused⟩
  have hfirst := (hregistered _ _ (hpast first) rfl).2 (List.forall_mem_nil _)
  have hlate := (hregistered _ _ (hpast late) rfl).1 hconnects
  have hidle : c.session.phase = .idle := by decide +kernel
  have hvain : ∀ d ∈ attempts, d.InVain := by
    have hall : ∀ d ∈ attempts, ¬ d.isBegin ∧
        (d.call?.any Call.isRegistration → d.result ≠ .ok ()) := by decide +kernel
    exact fun d hd => ⟨(hall d hd).1, (hall d hd).2⟩
  obtain ⟨hquiet, hstarted⟩ := hretry hidle hvain
  have hresult : ((start ⟨4⟩).run.run tried).1 = .ok () := by decide +kernel
  have hfailed : ((start ⟨4⟩).run.run tried).2.session.failedSends = 1 := by decide +kernel
  rcases hbegun : (start ⟨4⟩).run.run tried with ⟨result, begun⟩
  rw [hbegun] at hresult hfailed
  obtain rfl : result = .ok () := hresult
  obtain ⟨hequipped, refused, direct, hdirect, hsame, -⟩ := hstarted ⟨4⟩ begun hbegun
  exact ⟨⟨_, List.get_mem .., rfl, hfirst⟩, ⟨_, List.get_mem .., rfl, hlate⟩, by decide +kernel,
    hquiet, begun, rfl, hfailed, hequipped, refused, direct, hdirect, hsame⟩

end Client

end Multiplayer
