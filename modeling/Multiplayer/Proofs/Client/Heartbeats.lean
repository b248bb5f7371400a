import Multiplayer.Proofs.Client.Arrivals
import Multiplayer.Proofs.Client.Conversation
import Multiplayer.Proofs.Transport.Attempts

/-!
# When heartbeats are sent

A client has no timer.  It is told the time tick by tick, the server may change the interval at any
time, and the transport may fail at any time.  What has happened so far decides whether a tick sends
a heartbeat.

* `Deed.events`, `Deed.sends`, `Deed.beatAt?`: what the log shows of a tick.
* `intervalAfter` and `lastBeat`: how long the interval is after some deeds, and when it has begun.
* `Deed.OnSchedule`: a heartbeat is sent just if one is `Due`.
* `Client.Turns`: how a tick turns out, and `turns` says that there is no other way.
* `Client.Timed`: what the past tells a client, and what every step keeps (`chronicled_timed`).
* `heartbeats_on_schedule` is the result.  The log of the transport, from which it is read, changes
  nothing.
-/

namespace Multiplayer

variable {τ δ α : Type}

/-! ## What the log shows of a tick -/

namespace Deed

/-- The instant of a tick. -/
def tickedAt? (d : Deed τ δ α) : Option Instant :=
  match d.call? with
  | some (.tick now _) => some now
  | _ => none

/-- The attempts to send. -/
def sends (d : Deed (Logged τ) δ α) : List Exchange := d.used.filter Exchange.isSend

/-- The instant of a tick that has sent a heartbeat, or has tried to. -/
def beatAt? (d : Deed (Logged τ) δ α) : Option Instant :=
  if d.sends.isEmpty then none else d.tickedAt?

/-- The events that a tick has handled. -/
def events (d : Deed (Logged τ) δ α) : List StreamEvent :=
  match d.tickedAt? with
  | some _ => (d.before.assembler.feed (arrivals d.used)).1
  | none => []

/-- The transport has not failed before or among the events, and after them the session goes on. -/
def GoesOn (d : Deed (Logged τ) δ α) : Prop :=
  ¬ d.used.any Exchange.isFault ∧ d.after.session.isConnected

end Deed

/-- The heartbeat interval after some deeds: the last one that the server has set. -/
def intervalAfter (standard : Duration) (past : List (Deed (Logged τ) δ α)) : Duration :=
  lastWord StreamEvent.keepAlive? standard (past.flatMap Deed.events)

/-- When the interval has begun: with the last heartbeat, sent or not, or with the session. -/
def lastBeat (begun : Instant) (past : List (Deed (Logged τ) δ α)) : Instant :=
  lastWord Deed.beatAt? begun past

namespace Deed

/-- A heartbeat is due: the session goes on, and the interval that is in force after the events is
over.  An interval that leads beyond what the clock can show is never over. -/
def Due (standard : Duration) (begun : Instant) (past : List (Deed (Logged τ) δ α))
    (d : Deed (Logged τ) δ α) (now : Instant) : Prop :=
  d.GoesOn ∧ ∃ next,
    (lastBeat begun past).add? (intervalAfter standard (past ++ [d])) = some next ∧ next ≤ now

/-- One heartbeat is sent, or as much of it as the transport takes. -/
structure Beats (d : Deed (Logged τ) δ α) (now : Instant) (wall : Timestamp) : Prop where
  instant : d.beatAt? = some now
  delivery : ∃ result, d.result = result.mapError .transport ∧
    Delivery (Control.heartbeat wall) result d.sends
  accepted : d.accepted = Multiplayer.accepted d.sends
  length : (Control.heartbeat wall).length = 9

/-- A tick sends one heartbeat if one is due, and nothing otherwise. -/
structure OnSchedule (standard : Duration) (begun : Instant) (past : List (Deed (Logged τ) δ α))
    (d : Deed (Logged τ) δ α) (now : Instant) (wall : Timestamp) : Prop where
  due : d.Due standard begun past now → d.Beats now wall
  notDue : ¬ d.Due standard begun past now → d.sends = [] ∧ d.accepted = []

end Deed

/-! ## Single heartbeats -/

theorem Instant.nanoseconds_of_add? {t next : Instant} {d : Duration} (h : t.add? d = some next) :
    next.nanoseconds = t.nanoseconds + d.nanoseconds := by
  unfold add? at h
  dsimp only at h
  split at h
  · rw [← Option.some.inj h]
  · cases h

theorem Heartbeat.isDue_iff {h : Heartbeat} {now : Instant} :
    h.isDue now ↔ ∃ next, h.last.add? h.interval = some next ∧ next ≤ now := by
  unfold isDue
  cases h.last.add? h.interval with
  | none => simp
  | some next => simp

namespace Client

variable [Transport τ]

theorem beat_of_not_due {now : Instant} {wall : Timestamp} {c : Client τ δ α}
    (h : ¬ c.session.heartbeat.isDue now) : (beat now wall).run.run c = (.ok (), c) := by
  have hpoll : c.session.heartbeat.poll now = (false, c.session.heartbeat) := if_neg h
  rw [run_beat, hpoll]
  rfl

/-- The interval begins anew whatever becomes of the heartbeat. -/
theorem beat_of_due {now : Instant} {c : Client (Logged τ) δ α}
    (h : c.session.heartbeat.isDue now) (wall : Timestamp) : ∃ result log,
    let run := (beat now wall).run.run c
    run.1 = result.mapError .transport ∧ run.2.transport.log = c.transport.log ++ log ∧
      Delivers (Control.heartbeat wall) result log ∧
      run.2.session.heartbeat = c.session.heartbeat.reset now ∧
      run.2.session.phase = c.session.phase := by
  have hpoll : c.session.heartbeat.poll now = (true, c.session.heartbeat.reset now) := if_pos h
  obtain ⟨log, hlog, hdelivers⟩ := delivers_deliver (Control.heartbeat wall) c.transport
  rw [run_beat, hpoll]
  dsimp only
  rw [if_pos rfl, run_write]
  rcases hrun : (Transport.deliver (Control.heartbeat wall)).run.run c.transport with
    ⟨e | ⟨⟩, transport⟩ <;> rw [hrun] at hlog hdelivers
  · exact ⟨.error e, log, rfl, hlog, hdelivers, rfl, rfl⟩
  · exact ⟨.ok (), log, rfl, hlog, hdelivers, rfl, rfl⟩

end Client

/-! ## Single ticks -/

namespace Deed

/-- The deed is a tick that has used the transport to hear what arrives and then to send. -/
structure Shows (d : Deed (Logged τ) δ α) (now : Instant) (heard sent : List Exchange) : Prop where
  ticked : d.tickedAt? = some now
  used : d.used = heard ++ sent
  silent : ∀ exchange ∈ heard, ¬ exchange.isSend
  sends : ∀ exchange ∈ sent, exchange.isSend

namespace Shows

variable {d : Deed (Logged τ) δ α} {now : Instant} {heard sent : List Exchange}

theorem sends_eq (h : d.Shows now heard sent) : d.sends = sent := by
  rw [Deed.sends, h.used, List.filter_append, List.filter_eq_nil_iff.2 h.silent, List.nil_append,
    List.filter_eq_self.2 h.sends]

theorem any_isFault_eq (h : d.Shows now heard sent) :
    d.used.any Exchange.isFault = heard.any Exchange.isFault := by
  have hsound : sent.any Exchange.isFault = false :=
    List.any_eq_false.2 fun exchange hmem =>
      (Exchange.quiet_of_isSend (h.sends exchange hmem)).1 ▸ Bool.false_ne_true
  rw [h.used, List.any_append, hsound, Bool.or_false]

theorem events_eq (h : d.Shows now heard sent) :
    d.events = (d.before.assembler.feed (arrivals heard)).1 := by
  have hnothing : arrivals sent = [] := List.flatMap_eq_nil_iff.2 fun exchange hmem =>
    (Exchange.quiet_of_isSend (h.sends exchange hmem)).2
  rw [Deed.events, h.ticked, h.used, arrivals_append, hnothing, List.append_nil]

end Shows

end Deed

namespace Client

/-- How a tick turns out. -/
inductive Turns (d : Deed (Logged τ) δ α) (now : Instant) (wall : Timestamp) : Prop
  /-- There was no session. -/
  | offline (hover : ¬ d.after.session.isConnected) (hsends : d.sends = [])
  /-- The transport has failed, or the events have ended the session. -/
  | ended {heard} (hconnected : d.before.session.isConnected) (hshows : d.Shows now heard [])
    (hears : Hears d.before d.after heard) (hover : ¬ d.GoesOn)
  /-- No heartbeat is due after the events. -/
  | rests {heard} (hconnected : d.before.session.isConnected) (hshows : d.Shows now heard [])
    (hears : Hears d.before d.after heard) (hdue : ¬ d.after.session.heartbeat.isDue now)
  /-- A heartbeat is due, and whatever becomes of it the interval begins anew. -/
  | beats {c' heard sent result} (hconnected : d.before.session.isConnected)
    (hshows : d.Shows now heard sent) (hears : Hears d.before c' heard) (hgoes : d.GoesOn)
    (hdue : c'.session.heartbeat.isDue now)
    (hreset : d.after.session.heartbeat = c'.session.heartbeat.reset now)
    (hresult : d.result = result.mapError .transport)
    (hdelivers : Delivers (Control.heartbeat wall) result sent)

theorem turns [Transport τ] [Directory δ] (now : Instant) (clock : Clock)
    (c : Client (Logged τ) δ α) :
    Turns ((Step.call (.tick now clock)).deed c) now clock.wall := by
  let d := (Step.call (.tick now clock)).deed c
  by_cases hconnected : c.session.isConnected
  · -- What the tick does not send is shown by the log of what it hears.
    have hquiet {heard} (hears : Hears c d.after heard) : d.Shows now heard [] :=
      ⟨rfl, (Deed.used_eq hears.log).trans (List.append_nil _).symm, hears.silent,
        List.forall_mem_nil _⟩
    obtain ⟨c', heard, hears, ⟨hover, hafter⟩ | ⟨hsound, hstill, hrun⟩⟩ :=
      tick_hears now clock hconnected
    · obtain rfl : d.after = c' := hafter
      refine .ended hconnected (hquiet hears) hears fun hgoes => ?_
      rw [Deed.GoesOn, (hquiet hears).any_isFault_eq] at hgoes
      exact hover.elim hgoes.1 (absurd hgoes.2)
    by_cases hdue : c'.session.heartbeat.isDue now
    · obtain ⟨result, sent, hresult, hlog, hdelivers, hreset, hphase⟩ :=
        beat_of_due hdue clock.wall
      rw [← hrun] at hresult hlog hreset hphase
      rw [hears.log, List.append_assoc] at hlog
      have hshows : d.Shows now heard sent :=
        ⟨rfl, Deed.used_eq hlog, hears.silent, hdelivers.isSend⟩
      have hconnected' : d.after.session.isConnected :=
        decide_eq_true (hphase.trans (of_decide_eq_true hstill))
      exact .beats hconnected hshows hears ⟨hshows.any_isFault_eq ▸ hsound, hconnected'⟩ hdue hreset
        hresult hdelivers
    · rw [beat_of_not_due hdue] at hrun
      obtain rfl : d.after = c' := congrArg Prod.snd hrun
      exact .rests hconnected (hquiet hears) hears hdue
  · have hafter : d.after = { c with session := c.session.resetHeartbeat now } :=
      congrArg Prod.snd (run_tick_of_not_connected hconnected now clock)
    have hused : d.used = [] := Deed.used_eq (by rw [hafter]; exact (List.append_nil _).symm)
    refine .offline ?_ (by rw [Deed.sends, hused, List.filter_nil])
    rw [hafter]
    exact hconnected

end Client

/-! ## What the past tells a client -/

section

variable {standard : Duration} {begun : Instant} {past : List (Deed (Logged τ) δ α)}
  {d : Deed (Logged τ) δ α} {now : Instant} {wall : Timestamp}

theorem intervalAfter_concat : intervalAfter standard (past ++ [d]) =
    lastWord StreamEvent.keepAlive? (intervalAfter standard past) d.events := by
  rw [intervalAfter, List.flatMap_append, List.flatMap_singleton, lastWord_append]
  rfl

theorem lastBeat_concat :
    lastBeat begun (past ++ [d]) = d.beatAt?.getD (lastBeat begun past) :=
  lastWord_concat ..

namespace Deed

theorem accepted_sends : Multiplayer.accepted d.sends = d.accepted := accepted_filter_isSend _

theorem tickedAt?_eq_some_iff :
    d.tickedAt? = some now ↔ ∃ clock, d.call? = some (.tick now clock) := by
  unfold tickedAt?
  split
  · rename_i instant clock hcall
    simp [hcall]
  · rename_i hnone
    simpa using fun clock => hnone now clock

theorem beatAt?_eq_some_iff :
    d.beatAt? = some now ↔ d.sends ≠ [] ∧ d.tickedAt? = some now := by
  by_cases hsends : d.sends = []
  · simp [beatAt?, hsends]
  · simp [beatAt?, hsends]

theorem beatAt?_of_rests (h : d.sends = []) : d.beatAt? = none := by
  rw [beatAt?, h]
  rfl

theorem OnSchedule.of_beats (hdue : d.Due standard begun past now) (h : d.Beats now wall) :
    d.OnSchedule standard begun past now wall :=
  ⟨fun _ => h, absurd hdue⟩

theorem OnSchedule.of_rests (hdue : ¬ d.Due standard begun past now) (h : d.sends = []) :
    d.OnSchedule standard begun past now wall := by
  refine ⟨fun hdue' => absurd hdue' hdue, fun _ => ⟨h, ?_⟩⟩
  rw [← accepted_sends, h, accepted_nil]

theorem OnSchedule.due_of_sends (h : d.OnSchedule standard begun past now wall)
    (hsends : d.sends ≠ []) : d.Due standard begun past now := by
  by_contra hdue
  exact hsends (h.notDue hdue).1

end Deed

/-- The interval in force has begun no earlier than any heartbeat, if the time does not go back. -/
theorem le_lastBeat {between : List (Deed (Logged τ) δ α)} {t : Instant}
    (hbeat : d.beatAt? = some t)
    (hordered : ∀ e ∈ between, ∀ u, e.beatAt? = some u → t ≤ u) :
    t ≤ lastBeat begun (past ++ d :: between) := by
  have hsplit : lastBeat begun (past ++ d :: between) = lastWord Deed.beatAt? t between := by
    rw [lastBeat, List.append_cons, lastWord_append, lastWord_concat, hbeat, Option.getD_some]
  rw [hsplit]
  rcases lastWord_cases Deed.beatAt? t between with hsame | ⟨e, hmem, hlast⟩
  · rw [hsame]
    exact Nat.le_refl _
  · exact hordered e hmem _ hlast

namespace Client

/-- The session has begun.  While it is connected, the client knows how long the heartbeat interval
is and when it has begun. -/
structure Timed (standard : Duration) (begun : Instant) (past : List (Deed (Logged τ) δ α))
    (c : Client (Logged τ) δ α) : Prop where
  began : c.Began
  heartbeat : c.session.isConnected →
    c.session.heartbeat = ⟨intervalAfter standard past, lastBeat begun past⟩

/-- After the events of a tick, the client knows the interval that is then in force. -/
theorem Hears.heartbeat_eq {c' : Client (Logged τ) δ α} {heard sent : List Exchange}
    (h : Hears d.before c' heard) (hshows : d.Shows now heard sent)
    (hbefore : d.before.session.heartbeat = ⟨intervalAfter standard past, lastBeat begun past⟩) :
    c'.session.heartbeat = ⟨intervalAfter standard (past ++ [d]), lastBeat begun past⟩ := by
  rw [h.heartbeat, hbefore, intervalAfter_concat, hshows.events_eq]

/-- Only a tick has to do with heartbeats. -/
theorem Timed.of_not_ticked (h : Timed standard begun past d.before) (hticked : d.tickedAt? = none)
    (hbegan : d.after.Began)
    (hheartbeat : d.after.session.isConnected → d.before.session.isConnected ∧
      d.after.session.heartbeat = d.before.session.heartbeat) :
    Timed standard begun (past ++ [d]) d.after := by
  refine ⟨hbegan, fun hstill => ?_⟩
  obtain ⟨hconnected, hsame⟩ := hheartbeat hstill
  have hevents : d.events = [] := by rw [Deed.events, hticked]
  have hbeat : d.beatAt? = none := by rw [Deed.beatAt?, hticked, ite_self]
  rw [hsame, h.heartbeat hconnected, intervalAfter_concat, hevents, lastBeat_concat, hbeat]
  rfl

variable [Transport τ] [Directory δ] {c : Client (Logged τ) δ α}

/-- A tick is on schedule, and the client knows the schedule afterwards. -/
theorem timed_tick (h : Timed standard begun past c) (now : Instant) (clock : Clock) :
    let d := (Step.call (.tick now clock)).deed c
    d.OnSchedule standard begun past now clock.wall ∧
      Timed standard begun (past ++ [d]) d.after := by
  intro d
  have hbegan : d.after.Began := began_step _ h.began
  -- Without a heartbeat the interval goes on from where it has begun.
  have hquiet {heard} (hconnected : c.session.isConnected) (hshows : d.Shows now heard [])
      (hears : Hears c d.after heard) : d.after.session.heartbeat =
        ⟨intervalAfter standard (past ++ [d]), lastBeat begun (past ++ [d])⟩ := by
    rw [hears.heartbeat_eq hshows (h.heartbeat hconnected), lastBeat_concat,
      Deed.beatAt?_of_rests hshows.sends_eq, Option.getD_none]
  cases turns now clock c with
  | offline hover hsends =>
    exact ⟨.of_rests (fun hdue => hover hdue.1.2) hsends, hbegan,
      fun hstill => absurd hstill hover⟩
  | ended hconnected hshows hears hover =>
    exact ⟨.of_rests (fun hdue => hover hdue.1) hshows.sends_eq, hbegan,
      fun _ => hquiet hconnected hshows hears⟩
  | rests hconnected hshows hears hdue =>
    have hheartbeat := hears.heartbeat_eq hshows (h.heartbeat hconnected)
    rw [Heartbeat.isDue_iff, hheartbeat] at hdue
    exact ⟨.of_rests (fun hdue' => hdue hdue'.2) hshows.sends_eq, hbegan,
      fun _ => hquiet hconnected hshows hears⟩
  | @beats c' heard sent result hconnected hshows hears hgoes hdue hreset hresult hdelivers =>
    have hheartbeat := hears.heartbeat_eq hshows (h.heartbeat hconnected)
    rw [Heartbeat.isDue_iff, hheartbeat] at hdue
    have hframe : Control.heartbeat clock.wall ≠ [] := List.cons_ne_nil _ _
    have hinstant : d.beatAt? = some now :=
      Deed.beatAt?_eq_some_iff.2 ⟨hshows.sends_eq ▸ hdelivers.ne_nil hframe, hshows.ticked⟩
    have hbeats : d.Beats now clock.wall :=
      ⟨hinstant, ⟨result, hresult, hshows.sends_eq ▸ hdelivers.delivery⟩,
        Deed.accepted_sends.symm, Control.length_heartbeat _⟩
    refine ⟨.of_beats ⟨hgoes, hdue⟩ hbeats, hbegan, fun _ => ?_⟩
    rw [hreset, hheartbeat, lastBeat_concat, hinstant]
    rfl

/-- A call that is no tick leaves the heartbeat of a connected client as it is. -/
theorem heartbeat_perform {c : Client τ δ α} {made : Call α}
    (hmade : ∀ now clock, made ≠ .tick now clock) (hbegan : c.Began)
    (hstill : (made.perform.run.run c).2.session.isConnected) :
    (made.perform.run.run c).2.session.heartbeat = c.session.heartbeat := by
  by_cases hregistration : made.isRegistration
  · have hregisters := registers_perform hregistration c
    generalize made.perform.run.run c = run at hregisters ⊢
    cases hregisters with
    | closed | invalid | added => rfl
  · cases made with
    | start now => rw [Call.perform, run_start_of_not_idle hbegan]
    | tick now clock => exact absurd rfl (hmade now clock)
    | sendRaw bytes =>
      rw [Call.perform]
      rcases hrun : (sendRaw bytes).run.run c with ⟨result, c'⟩
      obtain ⟨transport, refused, rfl⟩ := eq_of_sendRaw hrun
      rfl
    | send packet =>
      rw [Call.perform]
      rcases hrun : (send packet).run.run c with ⟨result, c'⟩
      obtain ⟨transport, refused, rfl⟩ := eq_of_send hrun
      rfl
    | stop =>
      by_cases hconnected : c.session.isConnected
      · have hphase := phase_stop hconnected
        exact absurd ((of_decide_eq_true hstill).symm.trans hphase) Phase.noConfusion
      · rw [Call.perform, run_stop_of_not_connected hconnected]
    | _ => exact absurd rfl hregistration

/-- A session that has begun is connected after a step only if it was before. -/
theorem connected_before {c : Client τ δ α} (hbegan : c.Began) {step : Step τ δ α}
    (hstill : (step.deed c).after.session.isConnected) : c.session.isConnected := by
  have hleads := leads_step step c
  rw [of_decide_eq_true hstill] at hleads
  refine decide_eq_true ?_
  have hphase : c.session.phase ≠ .idle := hbegan
  generalize c.session.phase = phase at hleads hphase
  cases hleads with
  | stays => rfl
  | begins => exact absurd rfl hphase

/-- The past decides whether a tick sends a heartbeat. -/
theorem chronicled_timed : Chronicled
    (fun (c : Client (Logged τ) δ α) (step : Step (Logged τ) δ α) =>
      (step.deed c, (step.deed c).after))
    (Timed standard begun) fun past d => ∀ now clock, d.call? = some (.tick now clock) →
      d.OnSchedule standard begun past now clock.wall where
  fits {past c} h step now clock hcall := by
    cases step with
    | shared => cases hcall
    | call made =>
      obtain rfl : made = .tick now clock := Option.some.inj hcall
      exact (timed_tick h now clock).1
  follows {past c} h step := by
    by_cases hticked : (step.deed c).tickedAt? = none
    · refine h.of_not_ticked hticked (began_step step h.began) fun hstill => ?_
      refine ⟨connected_before h.began hstill, ?_⟩
      cases step with
      | shared => rfl
      | call made =>
        refine heartbeat_perform (fun now clock hmade => ?_) h.began hstill
        subst hmade
        cases hticked
    · cases step with
      | shared => exact absurd rfl hticked
      | call made =>
        cases made with
        | tick now clock => exact (timed_tick h now clock).2
        | _ => exact absurd rfl hticked

/-! ## Whole sessions -/

/-- Until the session begins, the interval is that of the settings. -/
theorem Reachable.interval_eq {c : Client τ δ α} (h : c.Reachable)
    (hidle : c.session.phase = .idle) : c.session.heartbeat.interval = c.settings.heartbeat := by
  induction h with
  | build => rfl
  | @call c h made ih =>
    have hidle : ((Step.call made).deed c).after.session.phase = .idle := hidle
    obtain ⟨hbefore, _, _, _, _, _, _, _, _, _, -, hafter⟩ := eq_of_still_idle hidle
    change ((Step.call made).deed c).after.session.heartbeat.interval =
      ((Step.call made).deed c).after.settings.heartbeat
    rw [hafter]
    exact ih hbefore
  | shared h transport directory state ih => exact ih hidle

/-- A start begins the schedule. -/
theorem timed_start (hreachable : c.Reachable) (hstart : ((start begun).run.run c).1 = .ok ()) :
    Timed c.settings.heartbeat begun [] ((start begun).run.run c).2 := by
  rcases phase_start begun c with ⟨e, herror, -⟩ | ⟨-, hidle, -⟩
  · cases hstart.symm.trans herror
  have hinterval := hreachable.interval_eq hidle
  have hstarts := starts hidle begun
  rcases hrun : (start begun).run.run c with ⟨result, c'⟩
  rw [hrun] at hstarts hstart
  obtain rfl : result = .ok () := hstart
  cases hstarts with
  | begun hresolve hconnect hbuild hshow =>
    obtain ⟨directory, rfl⟩ := eq_of_resolve hresolve
    obtain ⟨transport, rfl⟩ := eq_of_onTransport hconnect
    obtain ⟨registry, table, rfl⟩ := eq_of_buildTable hbuild
    obtain ⟨transport, refused, rfl⟩ := eq_of_authenticate hshow
    refine ⟨Phase.noConfusion, fun _ => ?_⟩
    change (⟨c.session.heartbeat.interval, begun⟩ : Heartbeat) = _
    rw [hinterval]
    rfl

/-- **Heartbeats are sent on schedule.**  Over any transport and at any instants, a tick sends a
heartbeat of nine bytes, or as much of it as is taken, just if one is due.  If the time does not go
back, two heartbeats are at least as far apart as the interval in force at the later one. -/
theorem heartbeats_on_schedule (hreachable : c.Reachable)
    (hstart : ((start begun).run.run c).1 = .ok ()) (steps : List (Step τ δ α)) :
    let standard := c.settings.heartbeat
    let started := ((start begun).run.run c).2
    let session := started.history (steps.map Step.logged)
    session.map (Deed.map unlogged) = started.unlogged.history steps ∧
      (∀ past d later now clock, session = past ++ d :: later →
        d.call? = some (.tick now clock) → d.OnSchedule standard begun past now clock.wall) ∧
      ((session.filterMap Deed.tickedAt?).Pairwise (· ≤ ·) →
        ∀ past d between e later t u, session = past ++ d :: between ++ e :: later →
          d.beatAt? = some t → e.beatAt? = some u →
            t.nanoseconds +
              (intervalAfter standard (past ++ d :: between ++ [e])).nanoseconds ≤
                u.nanoseconds) := by
  intro standard started session
  have htimed : Timed standard begun [] started := timed_start hreachable hstart
  have hschedule : ∀ past d later now clock, session = past ++ d :: later →
      d.call? = some (.tick now clock) → d.OnSchedule standard begun past now clock.wall := by
    intro past d later now clock hsession
    have hsplit := (history_eq_chronicle started _).symm.trans hsession
    exact chronicled_timed.deed htimed hsplit now clock
  refine ⟨history_unlogged steps started, hschedule, ?_⟩
  intro hordered past d between e later t u hsession hfirst hsecond
  obtain ⟨hsends, hticked⟩ := Deed.beatAt?_eq_some_iff.1 hsecond
  obtain ⟨clock, hcall⟩ := Deed.tickedAt?_eq_some_iff.1 hticked
  obtain ⟨-, next, hnext, hle⟩ :=
    (hschedule _ e later u clock hsession hcall).due_of_sends hsends
  -- Between the two heartbeats the time does not go back.
  rw [hsession, List.pairwise_filterMap, List.append_assoc, List.pairwise_append] at hordered
  have hbetween := (List.pairwise_cons.1 hordered.2.1).1
  have hbegun : t ≤ lastBeat begun (past ++ d :: between) := by
    refine le_lastBeat hfirst fun e' hmem v hv => ?_
    exact hbetween e' (List.mem_append_left _ hmem) t (Deed.beatAt?_eq_some_iff.1 hfirst).2 v
      (Deed.beatAt?_eq_some_iff.1 hv).2
  have hsum := Instant.nanoseconds_of_add? hnext
  exact Nat.le_trans (Nat.add_le_add_right hbegun _) (hsum ▸ hle)

end Client

end

namespace Client

/-- A tick some half seconds after the start. -/
def tickAt (halfSeconds : Nat) : Step Pipe FixedDirectory Unit :=
  let now : Instant := ⟨halfSeconds * 500000000⟩
  .call (.tick now ⟨now, default⟩)

/-- The server asks for a heartbeat every two seconds after the first one, and for a while the pipe
takes nothing. -/
def irregular : List (Step Pipe FixedDirectory Unit) :=
  [tickAt 1, tickAt 2,
    .shared (·.push [3, 2, 0, 7]) (fun directory => directory) (fun state => state),
    tickAt 4, .limit (some 0), tickAt 6, tickAt 8, .limit none, tickAt 10]

def irregularSession : List (Deed (Logged Pipe) FixedDirectory Unit) :=
  ((start ⟨0⟩).run.run errandClient).2.history (irregular.map Step.logged)

theorem heartbeats_on_schedule_irregular :
    let first := irregularSession.get ⟨1, by decide⟩
    let second := irregularSession.get ⟨5, by decide⟩
    let standard := errandClient.settings.heartbeat
    errandClient.Reachable ∧ ((start ⟨0⟩).run.run errandClient).1 = .ok () ∧
      (irregularSession.filterMap Deed.tickedAt?).Pairwise (· ≤ ·) ∧
      irregularSession.filterMap Deed.beatAt? = [⟨1000000000⟩, ⟨3000000000⟩, ⟨5000000000⟩] ∧
      second.call? = some (.tick ⟨3000000000⟩ ⟨⟨3000000000⟩, default⟩) ∧
      second.result = .error (.transport (.writeStalled 9)) ∧
      second.OnSchedule standard ⟨0⟩ (irregularSession.take 5) ⟨3000000000⟩ default ∧
      first.beatAt? = some ⟨1000000000⟩ ∧ second.beatAt? = some ⟨3000000000⟩ ∧
      intervalAfter standard (irregularSession.take 5 ++ [second]) = ⟨2000000000⟩ ∧
      1000000000 +
        (intervalAfter standard (irregularSession.take 5 ++ [second])).nanoseconds ≤
          3000000000 := by
  intro first second standard
  have hreachable : errandClient.Reachable := .build ..
  have hstart : ((start ⟨0⟩).run.run errandClient).1 = .ok () := by decide +kernel
  obtain ⟨-, hschedule, hspaced⟩ := heartbeats_on_schedule hreachable hstart irregular
  have hordered : (irregularSession.filterMap Deed.tickedAt?).Pairwise (· ≤ ·) := by
    decide +kernel
  have hsession : irregularSession =
      irregularSession.take 1 ++ first :: (irregularSession.drop 2).take 3 ++
        second :: irregularSession.drop 6 := rfl
  have hfirst : first.beatAt? = some ⟨1000000000⟩ := by decide +kernel
  have hsecond : second.beatAt? = some ⟨3000000000⟩ := by decide +kernel
  refine ⟨hreachable, hstart, hordered, by decide +kernel, rfl, by decide +kernel, ?_, hfirst,
    hsecond, by decide +kernel, ?_⟩
  · exact hschedule _ second _ ⟨3000000000⟩ ⟨⟨3000000000⟩, default⟩ hsession rfl
  · exact hspaced hordered _ first _ second _ _ _ hsession hfirst hsecond

end Client

end Multiplayer
