import Multiplayer.Proofs.Chronicle
import Multiplayer.Proofs.Client.Draining
import Multiplayer.Proofs.Client.Lifecycle
import Multiplayer.Proofs.Transport.Log

/-!
# What arrives in a tick

The log of a transport shows which bytes have arrived, and these bytes decide which events a tick
has handled.  The transport may be of any kind, and may fail at any time.

* `Client.Hears`: what has arrived on the way from one client to another, and how long the heartbeat
  interval is then.  Nothing is sent on that way.
* `poll_logged`: a poll feeds what the log shows.
* `pump_logged` says this of all events of a tick, and `tick_hears` of the tick itself, up to its
  heartbeat.
-/

namespace Multiplayer

variable {τ δ α : Type}

/-! ## Reading the log -/

namespace Exchange

/-- The bytes that have arrived. -/
def arrived : Exchange → Bytes
  | .receive _ (.ok bytes) => bytes
  | _ => []

/-- Whether the transport has failed when it was given time, or when something might arrive. -/
def isFault : Exchange → Bool
  | .update (.error _) => true
  | .receive _ (.error _) => true
  | _ => false

/-- A send is no failure of that kind, and nothing arrives in it. -/
theorem quiet_of_isSend {exchange : Exchange} (h : exchange.isSend) :
    exchange.isFault = false ∧ exchange.arrived = [] := by
  cases exchange with
  | send => exact ⟨rfl, rfl⟩
  | _ => cases h

end Exchange

/-- All bytes that have arrived, in order. -/
def arrivals (log : List Exchange) : Bytes := log.flatMap Exchange.arrived

@[simp] theorem arrivals_append (log more : List Exchange) :
    arrivals (log ++ more) = arrivals log ++ arrivals more :=
  List.flatMap_append

/-- The heartbeat interval that an event sets. -/
def StreamEvent.keepAlive? : StreamEvent → Option Duration
  | .established keepAlive _ => some (.ofWholeSeconds keepAlive.toNat)
  | _ => none

/-! ## Polls -/

namespace Assembler

variable [Transport τ]

/-- Reading is one receive. -/
theorem log_read {wanted : Nat} {source source' : Inbound (Logged τ)} {result}
    (h : ByteSource.read wanted source = (result, source')) :
    source'.transport.log =
      source.transport.log ++ [.receive (min wanted source.chunk) result] := by
  cases h
  rfl

/-- A poll receives, feeds what has arrived, and fails just if a receive does. -/
theorem poll_logged (a : Assembler) (source : Inbound (Logged τ)) : ∃ log,
    (a.poll source).2.2.transport.log = source.transport.log ++ log ∧
      (∀ exchange ∈ log, ¬ exchange.isSend) ∧
      (log.any Exchange.isFault ↔ ∃ e, (a.poll source).1 = .error e) ∧
      a.feed (arrivals log) = (polledEvents (a.poll source).1, (a.poll source).2.1) := by
  fun_induction poll a source with
  | case1 a source e source' hread =>
    exact ⟨_, log_read hread, by simp [Exchange.isSend], by simp [Exchange.isFault], rfl⟩
  | case2 a source source' hread =>
    exact ⟨_, log_read hread, by simp [Exchange.isSend], by simp [Exchange.isFault], rfl⟩
  | case3 a source b more source' hread event a' haccept =>
    have hlength := ByteSource.length_read_le (congrArg Prod.fst hread)
    refine ⟨_, log_read hread, by simp [Exchange.isSend], by simp [Exchange.isFault], ?_⟩
    change a.feed (b :: more ++ []) = _
    rw [List.append_nil, feed_eq_accept hlength, haccept]
    rfl
  | case4 a source b more source' hread a' haccept ih =>
    have hlength := ByteSource.length_read_le (congrArg Prod.fst hread)
    obtain ⟨log, hlog, hsilent, hfault, hfeed⟩ := ih
    refine ⟨.receive (min a.stage.wanted source.chunk) (.ok (b :: more)) :: log, ?_, ?_, ?_, ?_⟩
    · rw [hlog, log_read hread, List.append_assoc, List.singleton_append]
    · exact List.forall_mem_cons.2 ⟨Bool.false_ne_true, hsilent⟩
    · rw [← hfault]
      simp [Exchange.isFault]
    · change a.feed (b :: more ++ arrivals log) = _
      rw [feed_append, feed_eq_accept hlength, haccept, hfeed]
      rfl

end Assembler

namespace Client

/-! ## Events -/

/-- On the way from one client to another the transport was used like that, and nothing was sent.
The events of what has arrived have set the heartbeat interval. -/
structure Hears (c c' : Client (Logged τ) δ α) (used : List Exchange) : Prop where
  log : c'.transport.log = c.transport.log ++ used
  silent : ∀ exchange ∈ used, ¬ exchange.isSend
  heartbeat : c'.session.heartbeat = { c.session.heartbeat with
    interval := lastWord StreamEvent.keepAlive? c.session.heartbeat.interval
      (c.assembler.feed (arrivals used)).1 }

theorem Hears.refl (c : Client (Logged τ) δ α) : Hears c c [] :=
  ⟨(List.append_nil _).symm, List.forall_mem_nil _, rfl⟩

variable [Transport τ]

theorem heartbeat_handle (clock : Clock) (event : StreamEvent) (c : Client τ δ α) :
    (c.handle clock event).session.heartbeat = { c.session.heartbeat with
      interval := event.keepAlive?.getD c.session.heartbeat.interval } := by
  cases event with
  | established => rfl
  | clock => rfl
  | frame frame =>
    rw [handle, dispatch_session]
    rfl
  | teardown =>
    change c.session.stop.heartbeat = _
    unfold Session.stop
    split <;> rfl

/-- Reading the next event feeds what has arrived. -/
theorem nextEvent_logged {c c' : Client (Logged τ) δ α} {result}
    (h : c.nextEvent = (result, c')) : ∃ log,
    c'.transport.log = c.transport.log ++ log ∧ (∀ exchange ∈ log, ¬ exchange.isSend) ∧
      (log.any Exchange.isFault ↔ ∃ e, result = .error e) ∧
      c.assembler.feed (arrivals log) = (Assembler.polledEvents result, c'.assembler) ∧
      c'.session = c.session := by
  obtain ⟨log, hlog, hsilent, hfault, hfeed⟩ := Assembler.poll_logged c.assembler
    (⟨c.transport, c.settings.receiveChunk.toNat⟩ : Inbound (Logged τ))
  cases h
  exact ⟨log, hlog, hsilent, hfault, hfeed, rfl⟩

/-- Handling an event receives nothing. -/
theorem log_handle (clock : Clock) (event : StreamEvent) (c : Client (Logged τ) δ α) : ∃ log,
    (c.handle clock event).transport.log = c.transport.log ++ log ∧
      (∀ exchange ∈ log, ¬ exchange.isSend) ∧ ¬ log.any Exchange.isFault ∧ arrivals log = [] := by
  cases event with
  | established | clock =>
    exact ⟨[], (List.append_nil _).symm, List.forall_mem_nil _, Bool.false_ne_true, rfl⟩
  | frame frame =>
    rw [handle, dispatch_transport]
    exact ⟨[], (List.append_nil _).symm, List.forall_mem_nil _, Bool.false_ne_true, rfl⟩
  | teardown => exact ⟨[.close _], rfl, by simp [Exchange.isSend], Bool.false_ne_true, rfl⟩

/-- Pumping fails just if a receive fails, and the events that it handles are those of what has
arrived. -/
theorem pump_logged (clock : Clock) (c : Client (Logged τ) δ α) : ∃ log,
    Hears c (c.pump clock).2 log ∧
      (log.any Exchange.isFault ↔ ∃ e, (c.pump clock).1 = .error e) := by
  fun_induction pump clock c with
  | case1 c _ e c' hevent =>
    obtain ⟨log, hlog, hsilent, hfault, hfeed, hsession⟩ := nextEvent_logged hevent
    refine ⟨log, ⟨hlog, hsilent, ?_⟩, by simp [hfault]⟩
    rw [hsession, hfeed]
    rfl
  | case2 c _ c' hevent =>
    obtain ⟨log, hlog, hsilent, hfault, hfeed, hsession⟩ := nextEvent_logged hevent
    refine ⟨log, ⟨hlog, hsilent, ?_⟩, by simp [hfault]⟩
    rw [hsession, hfeed]
    rfl
  | case3 c _ event c' hevent ih =>
    obtain ⟨log, hlog, hsilent, hfault, hfeed, hsession⟩ := nextEvent_logged hevent
    obtain ⟨closing, hclosing, hquiet, hsound, hnothing⟩ := log_handle clock event c'
    -- Behind a teardown nothing is received, and any other event leaves the assembler alone.
    obtain ⟨more, hmore, hfault', hsame⟩ : ∃ more,
        Hears (c'.handle clock event) ((c'.handle clock event).pump clock).2 more ∧
          (more.any Exchange.isFault ↔ ∃ e, ((c'.handle clock event).pump clock).1 = .error e) ∧
          ((c'.handle clock event).assembler.feed (arrivals more)).1 =
            (c'.assembler.feed (arrivals more)).1 := by
      by_cases hteardown : event.isTeardown
      · have hover : ¬ (c'.handle clock event).session.isConnected := by
          simp [isConnected_handle, hteardown]
        rw [pump_of_not_connected hover]
        exact ⟨[], .refl _, by simp, rfl⟩
      · obtain ⟨more, hmore, hfault'⟩ := ih
        have hpart : c'.handle clock event = { c'.handle clock event with
            assembler := c'.assembler, transport := c'.transport } :=
          handle_of_not_teardown hteardown clock c' c'.assembler c'.transport
        exact ⟨more, hmore, hfault', by rw [hpart]⟩
    refine ⟨log ++ (closing ++ more), ⟨?_, ?_, ?_⟩, ?_⟩
    · rw [hmore.log, hclosing, hlog, List.append_assoc, List.append_assoc]
    · simp only [List.mem_append]
      rintro exchange (hmem | hmem | hmem)
      · exact hsilent exchange hmem
      · exact hquiet exchange hmem
      · exact hmore.silent exchange hmem
    · rw [hmore.heartbeat, heartbeat_handle, hsession, hsame, arrivals_append, arrivals_append,
        hnothing, List.nil_append, Assembler.feed_append, hfeed, lastWord_append]
      simp only [Assembler.polledEvents, lastWord_singleton]
    · rw [← hfault']
      simp [hfault, hsound]
  | case4 c => exact ⟨[], .refl c, by simp⟩

/-! ## Ticks -/

/-- The transport is given time before anything is received. -/
theorem hears_update {c c₁ : Client (Logged τ) δ α} {result}
    (h : (onTransport Transport.update).run.run c = (result, c₁)) : ∃ answer,
    result = answer.mapError .transport ∧
      ∀ {c' used}, Hears c₁ c' used → Hears c c' (.update answer :: used) := by
  rw [run_onTransport] at h
  obtain ⟨rfl, rfl⟩ := Prod.mk.inj h
  refine ⟨_, rfl, fun hears => ⟨?_, ?_, hears.heartbeat⟩⟩
  · rw [hears.log]
    exact List.append_assoc ..
  · exact List.forall_mem_cons.2 ⟨Bool.false_ne_true, hears.silent⟩

/-- A tick hears what arrives.  Then the transport has failed or the session is over, and that is
all, or a heartbeat may follow. -/
theorem tick_hears (now : Instant) (clock : Clock) {c : Client (Logged τ) δ α}
    (hconnected : c.session.isConnected) : ∃ c' used, Hears c c' used ∧
      ((used.any Exchange.isFault ∨ ¬ c'.session.isConnected) ∧
          ((tick now clock).run.run c).2 = c' ∨
        ¬ used.any Exchange.isFault ∧ c'.session.isConnected ∧
          (tick now clock).run.run c = (beat now clock.wall).run.run c') := by
  have hticks := ticks now clock c
  generalize (tick now clock).run.run c = run at hticks ⊢
  cases hticks with
  | offline hover => exact absurd hconnected hover
  | @stuck e c₁ _ hupdate =>
    obtain ⟨answer, hanswer, hears⟩ := hears_update hupdate
    refine ⟨c₁, _, hears (.refl c₁), .inl ⟨.inl ?_, rfl⟩⟩
    cases answer with
    | error => rfl
    | ok => cases hanswer
  | @broken c₁ e _ hupdate hpump =>
    obtain ⟨answer, hanswer, hears⟩ := hears_update hupdate
    obtain ⟨used, hpumped, hfault⟩ := pump_logged clock c₁
    refine ⟨_, _, hears hpumped, .inl ⟨.inl ?_, rfl⟩⟩
    rw [List.any_cons, hfault.2 ⟨e, hpump⟩, Bool.or_true]
  | @ended c₁ _ hupdate hpump hover =>
    obtain ⟨answer, hanswer, hears⟩ := hears_update hupdate
    obtain ⟨used, hpumped, hfault⟩ := pump_logged clock c₁
    exact ⟨_, _, hears hpumped, .inl ⟨.inr hover, rfl⟩⟩
  | @beats c₁ _ hupdate hpump hstill =>
    obtain ⟨answer, hanswer, hears⟩ := hears_update hupdate
    obtain ⟨used, hpumped, hfault⟩ := pump_logged clock c₁
    refine ⟨_, _, hears hpumped, .inr ⟨?_, hstill, rfl⟩⟩
    have hsound : ¬ used.any Exchange.isFault := by
      rw [hfault, hpump]
      rintro ⟨_, h⟩
      cases h
    cases answer with
    | error => cases hanswer
    | ok => exact hsound

end Client

end Multiplayer
