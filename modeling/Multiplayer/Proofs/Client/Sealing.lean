import Multiplayer.Proofs.Client.Hearing
import Multiplayer.Proofs.Client.Outbound

/-!
# How long registration is open

Registration is open until the first start that gets a connection.  That start installs the
reactions of the client and builds the table, whatever becomes of it afterwards.

* `Tabled`: nothing is installed before the table is built, and afterwards everything once.
* `sealed_deed`: registration is closed by a start that gets a connection, and by nothing else.
* `sealed_before`, `result_of_registers`: so what becomes of a registration depends on the starts
  before it alone.
-/

namespace Multiplayer

variable {τ δ α : Type}

namespace Deed

def registers (d : Deed τ δ α) : Bool := d.call?.any (·.registers)

/-- A start that has got a connection. -/
def Connects (d : Deed (Logged τ) δ α) : Prop :=
  ∃ now host port, d.call? = some (.start now) ∧ .connect host port (.ok ()) ∈ d.used

end Deed

/-- What is registered, what is subscribed to, and the table built from it.  Nothing is installed
before there is a table, and afterwards every reaction once. -/
structure Tabled (registry : Registry (HandlerState α)) (subscriptions : Subscriptions α)
    (table? : Option (Table (HandlerState α))) : Prop where
  unbuilt : table? = none → registry.isSealed = false ∧ registry.builtins = ∅
  built : ∀ table, table? = some table → registry.isSealed ∧ table = registry.table ∧
    registry.builtins = Reaction.addAll (Reaction.all subscriptions) ∅

namespace Client

open Attempt (Keeps)

/-! ## What is registered -/

/-- A property of what is registered and of the table. -/
def Registered (P : Registry (HandlerState α) → Subscriptions α →
    Option (Table (HandlerState α)) → Prop) (c : Client τ δ α) : Prop :=
  P c.registry c.subscriptions c.table

section

variable (P : Registry (HandlerState α) → Subscriptions α → Option (Table (HandlerState α)) → Prop)

theorem steady_registered : Steady (Registered P : Client τ δ α → Prop) where
  transport h _ := h
  directory h _ := h
  session h _ := h
  reset h := h

variable [Transport τ]

theorem registered_handle (clock : Clock) (event : StreamEvent) {c : Client τ δ α}
    (h : c.Registered P) : (c.handle clock event).Registered P := by
  cases event with
  | established => exact h
  | clock => exact h
  | teardown => exact h
  | frame frame =>
    change (c.dispatch clock.monotonic frame).Registered P
    rw [dispatch_eq]
    exact h

theorem registered_pump (clock : Clock) {c : Client τ δ α} (h : c.Registered P) :
    (c.pump clock).2.Registered P := by
  have hnext {c c' : Client τ δ α} {result} (hevent : c.nextEvent = (result, c'))
      (h : c.Registered P) : c'.Registered P := by
    obtain rfl := congrArg Prod.snd hevent
    exact h
  fun_induction pump clock c with
  | case1 c _ e c' hevent => exact hnext hevent h
  | case2 c _ c' hevent => exact hnext hevent h
  | case3 c _ event c' hevent ih => exact ih (registered_handle P clock event (hnext hevent h))
  | case4 => exact h

theorem registered_tick (now : Instant) (clock : Clock) :
    Keeps (Registered P) (tick now clock : Operation τ δ α Unit) := by
  intro c h
  have hupdated {c₁ : Client τ δ α} {result}
      (hupdate : (onTransport Transport.update).run.run c = (result, c₁)) : c₁.Registered P := by
    obtain ⟨transport, rfl⟩ := eq_of_onTransport hupdate
    exact h
  have hticks := ticks now clock c
  generalize (tick now clock).run.run c = run at hticks ⊢
  cases hticks with
  | offline => exact h
  | stuck _ hupdate => exact hupdated hupdate
  | broken _ hupdate => exact registered_pump P clock (hupdated hupdate)
  | ended _ hupdate => exact registered_pump P clock (hupdated hupdate)
  | beats _ hupdate =>
    exact keeps_beat (steady_registered P) now clock.wall _
      (registered_pump P clock (hupdated hupdate))

end

theorem tabled_build (b : Builder) (credential : Credential) (transport : τ) (directory : δ)
    (app : α) (now : Instant) :
    (b.build credential transport directory app now).Registered Tabled where
  unbuilt _ := ⟨rfl, rfl⟩
  built _ h := by cases h

/-- The table can be built, and the registry is sealed then. -/
theorem tabled_buildTable {c : Client τ δ α} (h : c.Registered Tabled) :
    ∃ c', (buildTable : Operation τ δ α Unit).run.run c = (.ok (), c') ∧ c'.Registered Tabled ∧
      c'.registry.isSealed ∧ c'.registry.handlers = c.registry.handlers ∧
      c'.registry.middleware = c.registry.middleware := by
  cases htable : c.table with
  | some table =>
    exact ⟨c, run_buildTable_of_some htable, h, (h.built table htable).1, rfl, rfl⟩
  | none =>
    obtain ⟨hopen, hempty⟩ := h.unbuilt htable
    have hinstall : Reaction.install c.subscriptions c.registry = _ :=
      Reaction.foldlM_addBuiltin (Reaction.all c.subscriptions) hopen
    refine ⟨_, run_buildTable_of_none htable hinstall, ⟨?_, ?_⟩, rfl, rfl, rfl⟩
    · intro hnone
      cases hnone
    · intro table hsome
      obtain rfl := Option.some.inj hsome
      exact ⟨rfl, rfl, by rw [hempty]; rfl⟩

theorem tabled_perform [Transport τ] [Directory δ] (made : Call α) :
    Keeps (Registered Tabled) (made.perform : Operation τ δ α Unit) := by
  by_cases hregistration : made.isRegistration
  · intro c h
    have hregisters := registers_perform hregistration c
    generalize made.perform.run.run c = run at hregisters ⊢
    cases hregisters with
    | closed => exact h
    | invalid => exact h
    | added hopen =>
      refine ⟨h.unbuilt, fun table htable => ?_⟩
      have hsealed := (h.built table htable).1
      rw [hopen] at hsealed
      cases hsealed
  · cases made with
    | start now =>
      refine keeps_start (steady_registered Tabled) (fun c h => ?_) now
      obtain ⟨c', hrun, hafter, -⟩ := tabled_buildTable h
      rw [hrun]
      exact hafter
    | tick now clock => exact registered_tick Tabled now clock
    | stop => exact keeps_stop (steady_registered Tabled)
    | sendRaw bytes => exact keeps_sendRaw (steady_registered Tabled) bytes
    | send packet => exact keeps_send (steady_registered Tabled) packet
    | _ => exact absurd rfl hregistration

/-! ## Starts that connect -/

section

variable [Transport τ]

/-- The parts of a start before the table leave alone what is registered. -/
theorem registered_connected [Directory δ] {P : Registry (HandlerState α) → Subscriptions α →
    Option (Table (HandlerState α)) → Prop} {c c₁ c₂ : Client τ δ α} {host : String} {port : UInt16}
    {resolved : Except ClientError Endpoint} {connected : Except ClientError Unit}
    (h : c.Registered P) (hresolve : resolve.run.run c = (resolved, c₁))
    (hconnect : (onTransport (Transport.connect host port)).run.run c₁ = (connected, c₂)) :
    c₂.Registered P := by
  obtain ⟨directory, rfl⟩ := eq_of_resolve hresolve
  obtain ⟨transport, rfl⟩ := eq_of_onTransport hconnect
  exact h

/-- What using the transport for a connection enters into the log. -/
theorem log_connect [Directory δ] {c c₁ c₂ : Client (Logged τ) δ α} {host : String} {port : UInt16}
    {resolved : Except ClientError Endpoint} {connected : Except ClientError Unit}
    (hresolve : resolve.run.run c = (resolved, c₁))
    (hconnect : (onTransport (Transport.connect host port)).run.run c₁ = (connected, c₂)) :
    ∃ outcome, c₂.transport.log = c.transport.log ++ [.connect host port outcome] ∧
      connected = outcome.mapError .transport := by
  obtain ⟨directory, rfl⟩ := eq_of_resolve hresolve
  rw [run_onTransport] at hconnect
  obtain ⟨rfl, rfl⟩ := Prod.mk.inj hconnect
  exact ⟨_, rfl, rfl⟩

variable [Directory δ]

/-- A start that has got a connection closes registration, whatever becomes of the rest. -/
theorem connects_of_connect {c c₁ c₂ c₃ : Client (Logged τ) δ α} (h : c.Registered Tabled)
    {now : Instant} {host : String} {port : UInt16} {endpoint : Endpoint}
    (hresolve : resolve.run.run c = (.ok endpoint, c₁))
    (hconnect : (onTransport (Transport.connect host port)).run.run c₁ = (.ok (), c₂))
    (hbuild : buildTable.run.run c₂ = (.ok (), c₃)) {d : Deed (Logged τ) δ α}
    (hcall : d.call? = some (.start now)) (hbefore : d.before = c)
    (hlater : ∃ bytes refused, Says c₃ d.after bytes refused)
    (hsame : d.after.registry = c₃.registry) : d.Connects ∧ d.after.registry.isSealed := by
  obtain ⟨outcome, hlog, houtcome⟩ := log_connect hresolve hconnect
  obtain ⟨c', hbuilt, -, hsealed, -⟩ := tabled_buildTable (registered_connected h hresolve hconnect)
  obtain rfl : c₃ = c' := congrArg Prod.snd (hbuild.symm.trans hbuilt)
  obtain ⟨_, _, hsaid⟩ := hlater
  obtain ⟨more, hmore, -⟩ := ((says_buildTable hbuild).after hsaid).log
  have hok : outcome = .ok () := by
    cases outcome with
    | error => cases houtcome
    | ok => rfl
  have hused : d.used = .connect host port outcome :: more := by
    refine Deed.used_eq ?_
    rw [hmore, hlog, hbefore, List.append_assoc]
    rfl
  refine ⟨⟨now, host, port, hcall, ?_⟩, ?_⟩
  · rw [hused, hok]
    exact List.mem_cons_self
  · rw [hsame]
    exact hsealed

/-- Whether a start gets a connection, and whether registration is closed after it. -/
theorem connects_start {c : Client (Logged τ) δ α} (h : c.Registered Tabled)
    (hidle : c.session.phase = .idle) {now : Instant} {d : Deed (Logged τ) δ α}
    (hcall : d.call? = some (.start now)) (hbefore : d.before = c)
    (hrun : (start now).run.run c = (d.result, d.after)) :
    d.Connects ∧ d.after.registry.isSealed ∨
      ¬ d.Connects ∧ d.after.registry.isSealed = c.registry.isSealed := by
  have hstarts := starts hidle now
  rw [hrun] at hstarts
  generalize hresult : d.result = result, hafter : d.after = after at hstarts
  have hsealed : c.Registered fun registry _ _ => registry.isSealed = c.registry.isSealed := rfl
  have hnothing {used : List Exchange} (hlog : after.transport.log = c.transport.log ++ used)
      (hused : ∀ host port, .connect host port (.ok ()) ∉ used) : ¬ d.Connects := by
    rintro ⟨_, host, port, -, hmem⟩
    have hall : d.used = used := Deed.used_eq (by rw [hafter, hbefore, hlog])
    rw [hall] at hmem
    exact hused host port hmem
  have hshown {c₃ c₄ : Client (Logged τ) δ α} {shown : Except ClientError Unit}
      (hshow : authenticate.run.run c₃ = (shown, c₄)) :
      (∃ bytes refused, Says c₃ c₄ bytes refused) ∧ c₄.registry = c₃.registry := by
    have hutters := utters_authenticate (cuts_shorter τ) c₃
    rw [hshow] at hutters
    refine ⟨hutters.said, ?_⟩
    obtain ⟨_, _, rfl⟩ := eq_of_authenticate hshow
    rfl
  cases hstarts with
  | unresolved hresolve =>
    obtain ⟨directory, rfl⟩ := eq_of_resolve hresolve
    exact .inr ⟨hnothing (List.append_nil _).symm fun _ _ => List.not_mem_nil, rfl⟩
  | unconnected hresolve hconnect =>
    obtain ⟨outcome, hlog, houtcome⟩ := log_connect hresolve hconnect
    refine .inr ⟨hnothing hlog ?_, registered_connected hsealed hresolve hconnect⟩
    intro host port hmem
    cases List.mem_singleton.1 hmem
    cases houtcome
  | unbuilt hresolve hconnect hbuild =>
    obtain ⟨c', hbuilt, -⟩ := tabled_buildTable (registered_connected h hresolve hconnect)
    cases hbuild.symm.trans hbuilt
  | unauthenticated hresolve hconnect hbuild hshow =>
    obtain ⟨⟨bytes, refused, hsaid⟩, hsame⟩ := hshown hshow
    left
    rw [← hafter]
    refine connects_of_connect h hresolve hconnect hbuild hcall hbefore ⟨bytes, refused, ?_⟩ ?_
    · rw [hafter]
      exact hsaid.before (says_release _)
    · rw [hafter]
      exact hsame
  | begun hresolve hconnect hbuild hshow =>
    obtain ⟨⟨bytes, refused, hsaid⟩, hsame⟩ := hshown hshow
    left
    rw [← hafter]
    refine connects_of_connect h hresolve hconnect hbuild hcall hbefore ⟨bytes, refused, ?_⟩ ?_
    · rw [hafter]
      exact hsaid.before (.of_same rfl rfl rfl)
    · rw [hafter]
      exact hsame

theorem sealed_deed {c : Client (Logged τ) δ α} (h : c.Registered Tabled) (step : Step τ δ α) :
    (step.logged.deed c).after.registry.isSealed ↔
      c.registry.isSealed ∨ (step.logged.deed c).Connects := by
  have hother (hcall : ∀ now, (step.logged.deed c).call? ≠ some (.start now))
      (hsame : (step.logged.deed c).after.registry.isSealed = c.registry.isSealed) :
      (step.logged.deed c).after.registry.isSealed ↔
        c.registry.isSealed ∨ (step.logged.deed c).Connects := by
    have hconnects : ¬ (step.logged.deed c).Connects := by
      rintro ⟨now, _, _, hstart, -⟩
      exact hcall now hstart
    rw [hsame]
    exact (or_iff_left hconnects).symm
  let P : Registry (HandlerState α) → Subscriptions α → Option (Table (HandlerState α)) → Prop :=
    fun registry _ _ => registry.isSealed = c.registry.isSealed
  cases step with
  | shared => exact hother nofun rfl
  | call made =>
    by_cases hregistration : made.isRegistration
    · refine hother ?_ ?_
      · rintro now hstart
        obtain rfl := Option.some.inj hstart
        cases hregistration
      · have hregisters := registers_perform hregistration c
        change (made.perform.run.run c).2.registry.isSealed = c.registry.isSealed
        generalize made.perform.run.run c = run at hregisters ⊢
        cases hregisters with
        | closed => rfl
        | invalid => rfl
        | added => rfl
    · cases made with
      | start now =>
        by_cases hidle : c.session.phase = .idle
        · have hstart := connects_start (d := (Step.call (.start now) : Step τ δ α).logged.deed c)
            h hidle rfl rfl rfl
          rcases hstart with ⟨hconnects, hsealed⟩ | ⟨hconnects, hsame⟩
          · exact iff_of_true hsealed (.inr hconnects)
          · rw [hsame]
            exact (or_iff_left hconnects).symm
        · have hafter : ((Step.call (.start now)).deed c).after = c :=
            congrArg Prod.snd (run_start_of_not_idle hidle now)
          have hconnects : ¬ ((Step.call (.start now) : Step (Logged τ) δ α).deed c).Connects := by
            rintro ⟨_, _, _, -, hmem⟩
            have hused : ((Step.call (.start now)).deed c).used = [] :=
              Deed.used_eq (by rw [hafter, List.append_nil]; rfl)
            rw [hused] at hmem
            cases hmem
          rw [show ((Step.call (.start now) : Step τ δ α).logged.deed c).after = c from hafter]
          exact (or_iff_left hconnects).symm
      | tick now clock => exact hother nofun (registered_tick P now clock c rfl)
      | stop => exact hother nofun (keeps_stop (steady_registered P) c rfl)
      | sendRaw bytes => exact hother nofun (keeps_sendRaw (steady_registered P) bytes c rfl)
      | send packet => exact hother nofun (keeps_send (steady_registered P) packet c rfl)
      | _ => exact absurd rfl hregistration

/-! ## Whole runs -/

theorem tabled_deed {c : Client τ δ α} (h : c.Registered Tabled) (step : Step τ δ α) :
    (step.deed c).after.Registered Tabled := by
  cases step with
  | call made => exact tabled_perform made c h
  | shared => exact h

/-- Registration is closed for a step of a run if it was from the start, or if a start before that
step has got a connection. -/
theorem sealed_before {c : Client (Logged τ) δ α} (h : c.Registered Tabled)
    {steps : List (Step τ δ α)} {past : List (Deed (Logged τ) δ α)} {d : Deed (Logged τ) δ α}
    (hpast : past ++ [d] <+: c.history (steps.map Step.logged)) :
    (d.before.registry.isSealed ↔ c.registry.isSealed ∨ ∃ e ∈ past, e.Connects) ∧
      ∃ step : Step τ δ α, d = step.logged.deed d.before := by
  induction steps generalizing c past with
  | nil => simp [history] at hpast
  | cons step steps ih =>
    rw [List.map_cons, history] at hpast
    cases past with
    | nil =>
      obtain ⟨rfl, -⟩ := List.cons_prefix_cons.1 hpast
      refine ⟨?_, step, rfl⟩
      simp [Step.deed]
    | cons e past =>
      obtain ⟨rfl, hlater⟩ := List.cons_prefix_cons.1 hpast
      obtain ⟨hsealed, hstep⟩ := ih (tabled_deed h step.logged) hlater
      refine ⟨?_, hstep⟩
      rw [hsealed, sealed_deed h step, or_assoc]
      simp only [List.mem_cons, exists_eq_or_imp]

/-- What becomes of a registration depends on whether registration is closed. -/
theorem result_of_registers {step : Step τ δ α} {c : Client (Logged τ) δ α}
    (h : (step.logged.deed c).registers) :
    (c.registry.isSealed → (step.logged.deed c).result = .error (.routing .alreadySealed) ∧
      (step.logged.deed c).after = c) ∧
    (c.registry.isSealed = false → (step.logged.deed c).result = .ok ()) := by
  cases step with
  | shared => cases h
  | call made =>
    have hmade : made.registers := h
    have hregistration : made.isRegistration := by
      cases made with
      | addMiddleware => rfl
      | _ => exact hmade
    have hregisters := registers_perform hregistration c
    change (c.registry.isSealed → (made.perform.run.run c).1 = _ ∧ (made.perform.run.run c).2 = c) ∧
      (c.registry.isSealed = false → (made.perform.run.run c).1 = _)
    generalize made.perform.run.run c = run at hregisters ⊢
    cases hregisters with
    | closed hsealed =>
      refine ⟨fun _ => ⟨rfl, rfl⟩, fun hopen => ?_⟩
      rw [hopen] at hsealed
      cases hsealed
    | invalid hinvalid => exact absurd hmade hinvalid
    | added hopen =>
      refine ⟨fun hsealed => ?_, fun _ => rfl⟩
      rw [hopen] at hsealed
      cases hsealed

end

end Client

end Multiplayer
