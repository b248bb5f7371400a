import Multiplayer.Proofs.Client.Outbound

/-!
# Conversations over a pipe

A pipe takes a frame whole or not at all.  So what a client has sent over it, whatever has failed in
between, is a conversation: the credential is shown once, requests and heartbeats follow, and a
farewell comes last.

* `Deed.Opens`, `Deed.Talks` and `Deed.Closes` are the parts of a conversation.
* `heard_idle`, `heard_connected` and `heard_stopped`: what is heard of a client from each phase on.
* `converses` is the result.  The log of the pipe, from which it is read, changes nothing.
-/

namespace Multiplayer

variable {τ δ α : Type}

/-! ## Parts of a conversation -/

namespace Deed

/-- The transport has taken something. -/
def isHeard (d : Deed (Logged τ) δ α) : Bool := ¬ d.accepted.isEmpty

/-- The session begins, and the credential is shown. -/
def Opens (token : Bytes) (d : Deed (Logged τ) δ α) : Prop :=
  d.isBegin ∧ Control.authenticate token = .ok d.accepted

/-- A packet, a heartbeat or raw bytes have gone out, and all of it. -/
def Talks (d : Deed (Logged τ) δ α) : Prop :=
  match d.call? with
  | some (.send packet) => packet.encode = .ok d.accepted
  | some (.tick _ clock) => d.accepted = Control.heartbeat clock.wall ∧ d.accepted.length = 9
  | some (.sendRaw bytes) => d.accepted = bytes
  | _ => False

def Closes (d : Deed (Logged τ) δ α) : Prop :=
  d.call? = some .stop ∧ d.accepted = Control.closing

theorem isHeard_iff {d : Deed (Logged τ) δ α} : d.isHeard ↔ d.accepted ≠ [] := by
  simp [isHeard]

end Deed

/-- Deeds of which the first shows the credential, the last may be a farewell, and the others are in
between. -/
inductive Conversation (token : Bytes) : List (Deed (Logged τ) δ α) → Prop
  | nothing : Conversation token []
  | talk {opening middle closing} (hopens : opening.Opens token) (htalks : ∀ d ∈ middle, d.Talks)
    (hcloses : closing = [] ∨ ∃ d, d.Closes ∧ closing = [d]) :
    Conversation token (opening :: (middle ++ closing))

namespace Deed

/-- What a deed over a pipe brings to the other end: all of its frame, or nothing if it fails. -/
structure IsWhole (d : Deed (Logged Pipe) δ α) : Prop where
  of_ok : d.result = .ok () → d.speaks → d.frame? = some d.accepted
  of_error : ∀ e, d.result = .error e → d.accepted = []
  outbound : d.call?.isSome →
    d.after.transport.transport.takeOutbound.1 =
      d.before.transport.transport.takeOutbound.1 ++ d.accepted

/-- Over a pipe, only a deed that succeeds is heard, and all of its frame. -/
theorem Accounts.whole {d : Deed (Logged τ) δ α} (h : d.Accounts Cut.Nothing)
    (hheard : d.isHeard) : d.result = .ok () ∧ d.frame? = some d.accepted := by
  rw [isHeard_iff] at hheard
  obtain ⟨frame, hframe, ⟨hok, htaken⟩ | ⟨-, hnothing⟩⟩ := h.frame hheard
  · rw [htaken]
    exact ⟨hok, hframe⟩
  · exact absurd hnothing hheard

end Deed

theorem Control.length_heartbeat (now : Timestamp) : (Control.heartbeat now).length = 9 := by
  rw [Control.heartbeat, List.length_cons, Bytes.length_ofNat]

theorem Control.authenticate_ne_nil {token frame : Bytes}
    (h : Control.authenticate token = .ok frame) : frame ≠ [] := by
  unfold Control.authenticate at h
  split at h
  · cases h
    exact List.cons_ne_nil _ _
  · cases h

namespace Client

variable [Directory δ]

/-! ## Single steps -/

/-- An idle client is heard when it shows its credential. -/
theorem opens_deed {c : Client (Logged Pipe) δ α} (hidle : c.session.phase = .idle)
    {step : Step Pipe δ α} (h : (step.logged.deed c).isHeard) :
    (step.logged.deed c).Opens c.credential.token := by
  obtain ⟨hok, hframe⟩ := (deed_accounts Pipe.cuts_nothing step c).whole h
  rcases accepted_deed step c (Deed.isHeard_iff.1 h) with hconnected | ⟨-, now, hcall⟩
  · simp [Session.isConnected, hidle] at hconnected
  · constructor
    · rw [Deed.isBegin, hcall, hok]
    · rw [Deed.frame?, hcall] at hframe
      exact ok_of_toOption hframe

/-- What begins a session is heard. -/
theorem isHeard_of_isBegin {c : Client (Logged Pipe) δ α} {step : Step Pipe δ α}
    (h : (step.logged.deed c).isBegin) : (step.logged.deed c).isHeard := by
  have haccounts := deed_accounts Pipe.cuts_nothing step c
  rw [Deed.isHeard_iff]
  unfold Deed.isBegin at h
  split at h
  · rename_i now hcall hok
    rcases haccounts.of_ok hok with ⟨-, hsilent⟩ | hframe
    · rw [Deed.speaks, hcall] at hsilent
      cases hsilent
    · rw [Deed.frame?, hcall] at hframe
      exact Control.authenticate_ne_nil (ok_of_toOption hframe)
  · cases h

/-- What is heard of a client that is connected. -/
theorem talks_deed {c : Client (Logged Pipe) δ α} (hconnected : c.session.isConnected)
    {step : Step Pipe δ α} (h : (step.logged.deed c).isHeard) :
    (step.logged.deed c).Talks ∨
      (step.logged.deed c).Closes ∧ (step.logged.deed c).after.session.phase = .stopped := by
  obtain ⟨hok, hframe⟩ := (deed_accounts Pipe.cuts_nothing step c).whole h
  cases step with
  | shared => cases hframe
  | call made =>
    cases made with
    | start now =>
      have hbegun : c.session.phase ≠ .idle := by
        intro hidle
        simp [Session.isConnected, hidle] at hconnected
      have hrun := congrArg Prod.fst (run_start_of_not_idle hbegun now)
      cases hok.symm.trans hrun
    | tick now clock =>
      have htaken := (Option.some.inj hframe).symm
      refine .inl ⟨htaken, ?_⟩
      rw [htaken]
      exact Control.length_heartbeat clock.wall
    | stop => exact .inr ⟨⟨rfl, (Option.some.inj hframe).symm⟩, phase_stop hconnected⟩
    | sendRaw bytes => exact .inl (Option.some.inj hframe).symm
    | send packet => exact .inl (ok_of_toOption hframe)
    | _ => cases hframe

/-! ## What is heard from each phase on -/

theorem heard_stopped {c : Client (Logged Pipe) δ α} (hstopped : c.session.phase = .stopped)
    (steps : List (Step Pipe δ α)) :
    (c.history (steps.map Step.logged)).filter Deed.isHeard = [] := by
  rw [List.filter_eq_nil_iff]
  intro d hd hheard
  exact Deed.isHeard_iff.1 hheard (silent_of_stopped hstopped steps d hd)

theorem heard_connected {c : Client (Logged Pipe) δ α} (hconnected : c.session.phase = .connected)
    (steps : List (Step Pipe δ α)) :
    ∃ middle closing, (c.history (steps.map Step.logged)).filter Deed.isHeard =
        middle ++ closing ∧ (∀ d ∈ middle, d.Talks) ∧
      (closing = [] ∨ ∃ d : Deed (Logged Pipe) δ α, d.Closes ∧ closing = [d]) := by
  induction steps generalizing c with
  | nil => exact ⟨[], [], rfl, List.forall_mem_nil _, .inl rfl⟩
  | cons step steps ih =>
    have htalks (hheard : (step.logged.deed c).isHeard) :=
      talks_deed (decide_eq_true hconnected) hheard
    have hleads := leads_step step.logged c
    rw [hconnected] at hleads
    rw [List.map_cons, history]
    cases hnext : (step.logged.deed c).after.session.phase with
    | idle =>
      rw [hnext] at hleads
      cases hleads
    | connected =>
      -- The session goes on, and so does the talk.
      obtain ⟨middle, closing, hlater, hmiddle, hclosing⟩ := ih hnext
      by_cases hheard : (step.logged.deed c).isHeard
      · rcases htalks hheard with htalk | ⟨-, hstopped⟩
        · rw [List.filter_cons_of_pos hheard, hlater]
          exact ⟨_ :: middle, closing, rfl, List.forall_mem_cons.2 ⟨htalk, hmiddle⟩, hclosing⟩
        · rw [hnext] at hstopped
          cases hstopped
      · rw [List.filter_cons_of_neg hheard]
        exact ⟨middle, closing, hlater, hmiddle, hclosing⟩
    | stopped =>
      have hlater := heard_stopped hnext steps
      by_cases hheard : (step.logged.deed c).isHeard
      · rw [List.filter_cons_of_pos hheard, hlater]
        rcases htalks hheard with htalk | ⟨hcloses, -⟩
        · exact ⟨[_], [], rfl, List.forall_mem_singleton.2 htalk, .inl rfl⟩
        · exact ⟨[], [_], rfl, List.forall_mem_nil _, .inr ⟨_, hcloses, rfl⟩⟩
      · rw [List.filter_cons_of_neg hheard]
        exact ⟨[], [], hlater, List.forall_mem_nil _, .inl rfl⟩

theorem heard_idle {c : Client (Logged Pipe) δ α} (hidle : c.session.phase = .idle)
    (steps : List (Step Pipe δ α)) :
    Conversation c.credential.token
      ((c.history (steps.map Step.logged)).filter Deed.isHeard) := by
  induction steps generalizing c with
  | nil => exact .nothing
  | cons step steps ih =>
    have hsame := (deed_accounts Pipe.cuts_nothing step c).credential
    rw [List.map_cons, history]
    by_cases hheard : (step.logged.deed c).isHeard
    · have hopens := opens_deed hidle hheard
      obtain ⟨-, hconnected⟩ := isBegin_deed hopens.1
      obtain ⟨middle, closing, hlater, hmiddle, hclosing⟩ := heard_connected hconnected steps
      rw [List.filter_cons_of_pos hheard, hlater]
      exact .talk hopens hmiddle hclosing
    · have hover : ¬ c.session.isConnected := by simp [Session.isConnected, hidle]
      rcases phase_of_not_connected hover step.logged with hstill | hbegin
      · have hlater := ih (hstill.trans hidle)
        rw [hsame] at hlater
        rw [List.filter_cons_of_neg hheard]
        exact hlater
      · exact absurd (isHeard_of_isBegin hbegin) hheard

/-! ## Whole runs -/

theorem outbound_deed (made : Call α) (c : Client (Logged Pipe) δ α) :
    ((Step.call made).deed c).after.transport.transport.takeOutbound.1 =
      c.transport.transport.takeOutbound.1 ++ ((Step.call made).deed c).accepted := by
  have hkeeps := Pipe.keeps_outbound c.transport.transport.takeOutbound.1 c.transport.log
  obtain ⟨more, hlog, hgot⟩ := keeps_perform hkeeps made c
    ⟨[], (List.append_nil _).symm, (List.append_nil _).symm⟩
  have hused : ((Step.call made).deed c).used = more := Deed.used_eq hlog
  rw [Deed.accepted, hused]
  exact hgot

theorem isWhole_deed (step : Step Pipe δ α) (c : Client (Logged Pipe) δ α) :
    (step.logged.deed c).IsWhole := by
  have haccounts := deed_accounts Pipe.cuts_nothing step c
  refine ⟨?_, ?_, ?_⟩
  · intro hok hspeaks
    rcases haccounts.of_ok hok with ⟨-, hsilent⟩ | hframe
    · rw [hsilent] at hspeaks
      cases hspeaks
    · exact hframe
  · intro e herror
    rcases haccounts.of_error e herror with hsilent | ⟨frame, -, hnothing⟩
    · exact hsilent
    · exact hnothing
  · intro hcall
    cases step with
    | call made => exact outbound_deed made c
    | shared => cases hcall

theorem calls_history {τ : Type} [Transport τ] (steps : List (Step τ δ α)) (c : Client τ δ α) :
    (c.history steps).map (·.call?) = steps.map Step.call? := by
  induction steps generalizing c with
  | nil => rfl
  | cons step steps ih => exact congrArg (step.call? :: ·) (ih (step.deed c).after)

/-- **What a client sends over a pipe is a conversation**, whatever the application and the other
end do.  Each step has sent its frame and all of it, or nothing.  A call that has failed has sent
nothing, and every refused write was counted. -/
theorem converses (b : Builder) (credential : Credential) (pipe : Pipe) (directory : δ) (app : α)
    (now : Instant) (steps : List (Step Pipe δ α)) :
    let c := b.build credential (Logged.start pipe) directory app now
    let history := c.history (steps.map Step.logged)
    let after := c.after (steps.map Step.logged)
    history.map (Deed.map unlogged) = (b.build credential pipe directory app now).history steps ∧
      history.map (·.call?) = steps.map Step.call? ∧
      accepted after.transport.log = history.flatMap Deed.accepted ∧
      Conversation credential.token (history.filter Deed.isHeard) ∧
      after.session.failedSends = refusals after.transport.log ∧
      ∀ d ∈ history, d.IsWhole := by
  intro c history after
  obtain ⟨hlog, hfailed⟩ := log_after steps c
  have hall : after.transport.log = history.flatMap Deed.used := hlog.trans (List.nil_append _)
  refine ⟨history_unlogged steps c, ?_, ?_, heard_idle (c := c) rfl steps, ?_, ?_⟩
  · rw [calls_history, List.map_map]
    refine List.map_congr_left fun step _ => ?_
    cases step <;> rfl
  · rw [hall, Deed.accepted_flatMap]
  · rw [hall]
    exact hfailed.trans (Nat.zero_add _)
  · have hstep : ∀ step ∈ steps.map Step.logged, ∀ c : Client (Logged Pipe) δ α, True →
        (step.deed c).IsWhole ∧ True := by
      intro step hmem c _
      obtain ⟨step, -, rfl⟩ := List.mem_map.1 hmem
      exact ⟨isWhole_deed step c, trivial⟩
    exact (forall_history (P := fun _ => True) hstep trivial).1

/-- The credential is refused, and then shown in single bytes.  A room is asked for, a heartbeat
goes out, another request is refused, and a farewell comes last. -/
def errand : List (Step Pipe FixedDirectory Unit) :=
  [.limit (some 0), .call (.start ⟨0⟩), .limit (some 1), .call (.start ⟨0⟩),
    .call (.send (requestPacket .roomCreate)), .call (.tick ⟨1000000000⟩ ⟨⟨1000000000⟩, default⟩),
    .limit (some 0), .call (.send (requestPacket .roomExit)), .limit none, .call .stop,
    .call (.send (requestPacket .roomExit)), .call .stop]

def errandClient : Client (Logged Pipe) FixedDirectory Unit :=
  (default : Builder).build (Credential.parse "cDpaRHBaVkhCclZraENOZz09") (Logged.start Pipe.empty)
    ⟨some (.ofAddress "localhost" 7000)⟩ () ⟨0⟩

def errandHistory : List (Deed (Logged Pipe) FixedDirectory Unit) :=
  errandClient.history (errand.map Step.logged)

theorem converses_errand :
    let after := errandClient.after (errand.map Step.logged)
    Conversation errandClient.credential.token (errandHistory.filter Deed.isHeard) ∧
      (errandHistory.filter Deed.isHeard).map Deed.accepted =
        [4 :: 0 :: 24 :: errandClient.credential.token, [8, 0, 2, 1, 0],
          [0, 0, 0, 0, 0, 0, 0, 0, 0], [1]] ∧
      accepted after.transport.log = errandHistory.flatMap Deed.accepted ∧
      refusals after.transport.log = 2 ∧ after.session.failedSends = 2 ∧
      ∃ d ∈ errandHistory, d.result = .error (.transport (.writeStalled 5)) ∧ d.accepted = [] := by
  obtain ⟨-, -, hall, hconversation, hfailed, hwhole⟩ := converses (default : Builder)
    (Credential.parse "cDpaRHBaVkhCclZraENOZz09") Pipe.empty
    (⟨some (.ofAddress "localhost" 7000)⟩ : FixedDirectory) () ⟨0⟩ errand
  have hrefusals : refusals (errandClient.after (errand.map Step.logged)).transport.log = 2 := by
    decide +kernel
  have hrefused : (errandHistory.get ⟨7, by decide⟩).result =
      .error (.transport (.writeStalled 5)) := by decide +kernel
  have hmem : errandHistory.get ⟨7, by decide⟩ ∈ errandHistory := List.get_mem ..
  exact ⟨hconversation, by decide +kernel, hall, hrefusals, hfailed.trans hrefusals, _, hmem,
    hrefused, (hwhole _ hmem).of_error _ hrefused⟩

end Client

end Multiplayer
