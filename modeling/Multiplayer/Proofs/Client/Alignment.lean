import Multiplayer.Proofs.Client.Outbound

/-!
# Where frames begin on the wire

A transport may take any part of a frame before it refuses the rest.  From the start of a session
on, what it has taken are the frames that the deeds were to write, one after another and each of
them whole, up to the first deed that is cut short.  Behind these there is a part of the frame of
that deed, and the session stays connected.  So the next frame begins where the other end still
waits for the rest of the one before.

* `Deed.sent?` is the frame of a deed that has written and succeeded, and `Deed.CutShort` is a deed
  that has written and failed.
* `Aligned`: bytes that are the frames of some deeds, of which only the last may be cut short.
* `aligned_until_cut`: so are the bytes that a transport has taken, whatever it refuses.  Raw bytes
  of the application count as a frame.
* `written_after_cut`: a session in which a frame follows one that is cut short.
-/

namespace Multiplayer

variable {τ δ α : Type}

/-- Whether the application chooses the bytes itself. -/
def Step.isRaw : Step τ δ α → Bool
  | .call (.sendRaw _) => true
  | _ => false

namespace Deed

/-- The deed has failed, but a part of its frame has gone out. -/
def CutShort (d : Deed (Logged τ) δ α) : Prop := (∃ e, d.result = .error e) ∧ d.accepted ≠ []

/-- The frame that the deed was to write, if it has succeeded and has written. -/
def sent? (d : Deed (Logged τ) δ α) : Option Bytes :=
  match d.result with
  | .ok () => if d.accepted = [] then none else d.frame?
  | .error _ => none

end Deed

/-- The frames of some deeds, one after another and each of them whole.  If the last deed is cut
short, a part of its frame is behind them. -/
inductive Aligned : List (Deed (Logged τ) δ α) → Bytes → Prop
  | whole {deeds} (h : ∀ d ∈ deeds, ¬ d.CutShort) :
    Aligned deeds (deeds.filterMap Deed.sent?).flatten
  | cutShort {deeds d frame part} (h : ∀ e ∈ deeds, ¬ e.CutShort) (hcut : d.CutShort)
    (hframe : d.frame? = some frame) (hpart : Cut.Shorter part frame) :
    Aligned (deeds ++ [d]) ((deeds.filterMap Deed.sent?).flatten ++ part)

namespace Deed

/-- A deed that is not cut short brings its frame or nothing. -/
theorem Accounts.accepted_eq {d : Deed (Logged τ) δ α} (h : d.Accounts Cut.Shorter)
    (hwhole : ¬ d.CutShort) : d.accepted = d.sent?.getD [] := by
  by_cases hheard : d.accepted = []
  · unfold sent?
    rw [hheard, if_pos rfl]
    split <;> rfl
  · obtain ⟨frame, hframe, ⟨hok, rfl⟩ | ⟨herror, -⟩⟩ := h.frame hheard
    · rw [sent?, hok, if_neg hheard, hframe]
      rfl
    · exact absurd ⟨herror, hheard⟩ hwhole

/-- A deed that is cut short brings a part of its frame. -/
theorem Accounts.part {cut : Cut} {d : Deed (Logged τ) δ α} (h : d.Accounts cut)
    (hcut : d.CutShort) : ∃ frame, d.frame? = some frame ∧ cut d.accepted frame := by
  obtain ⟨⟨e, herror⟩, hheard⟩ := hcut
  obtain ⟨frame, hframe, ⟨hok, -⟩ | ⟨-, hpart⟩⟩ := h.frame hheard
  · rw [hok] at herror
    cases herror
  · exact ⟨frame, hframe, hpart⟩

theorem flatMap_accepted {deeds : List (Deed (Logged τ) δ α)}
    (h : ∀ d ∈ deeds, d.Accounts Cut.Shorter) (hwhole : ∀ d ∈ deeds, ¬ d.CutShort) :
    deeds.flatMap accepted = (deeds.filterMap sent?).flatten := by
  induction deeds with
  | nil => rfl
  | cons d deeds ih =>
    obtain ⟨hd, hdeeds⟩ := List.forall_mem_cons.1 h
    obtain ⟨hdwhole, hdeedswhole⟩ := List.forall_mem_cons.1 hwhole
    rw [List.flatMap_cons, ih hdeeds hdeedswhole, hd.accepted_eq hdwhole]
    cases hsent : d.sent? with
    | none => rw [List.filterMap_cons_none hsent, Option.getD_none, List.nil_append]
    | some frame => rw [List.filterMap_cons_some hsent, Option.getD_some, List.flatten_cons]

/-- If no deed but the last is cut short, frames are aligned. -/
theorem aligned_of_accounts {past : List (Deed (Logged τ) δ α)} {d : Deed (Logged τ) δ α}
    (h : ∀ e ∈ past ++ [d], e.Accounts Cut.Shorter) (hpast : ∀ e ∈ past, ¬ e.CutShort) :
    Aligned (past ++ [d]) ((past ++ [d]).flatMap accepted) := by
  by_cases hcut : d.CutShort
  · have hfront := flatMap_accepted (fun e he => h e (List.mem_append_left _ he)) hpast
    obtain ⟨frame, hframe, hpart⟩ := (h d List.mem_concat_self).part hcut
    rw [List.flatMap_append, List.flatMap_singleton, hfront]
    exact .cutShort hpast hcut hframe hpart
  · have hwhole : ∀ e ∈ past ++ [d], ¬ e.CutShort := by
      intro e he
      rcases List.mem_append.1 he with he | he
      · exact hpast e he
      · obtain rfl := List.mem_singleton.1 he
        exact hcut
    rw [flatMap_accepted h hwhole]
    exact .whole hwhole

end Deed

/-- Of a single byte, nothing is left but nothing. -/
theorem Cut.not_shorter_singleton {part : Bytes} (h : part ≠ []) {b : UInt8} :
    ¬ Cut.Shorter part [b] := by
  rintro ⟨hfront, hne⟩
  have hpos : 1 ≤ part.length := List.length_pos_iff.2 h
  exact hne (hfront.eq_of_length_le hpos)

namespace Client

variable [Transport τ] [Directory δ]

theorem connected_of_cutShort {c : Client (Logged τ) δ α} (hbegan : c.Began)
    {step : Step τ δ α} (h : (step.logged.deed c).CutShort) :
    (step.logged.deed c).after.session.isConnected := by
  obtain ⟨frame, hframe, hshorter⟩ := (deed_accounts (cuts_shorter τ) step c).part h
  obtain ⟨-, hheard⟩ := h
  have hconnected : c.session.isConnected := by
    rcases accepted_deed step c hheard with hconnected | ⟨hidle, -⟩
    · exact hconnected
    · exact absurd hidle hbegan
  have hphase : c.session.phase = .connected := of_decide_eq_true hconnected
  cases step with
  | shared => cases hframe
  | call made =>
    cases made with
    | start now =>
      have hafter := congrArg Prod.snd (run_start_of_not_idle hbegan now)
      exact absurd (Deed.accepted_of_same (congrArg Client.transport hafter)) hheard
    | tick now clock =>
      have hticks := ticks now clock c
      have hsilent : ¬ Says c ((tick now clock).run.run c).2 [] 0 := by
        intro hsaid
        exact hheard (Says.used (d := (Step.call (.tick now clock)).deed c) hsaid).2.1
      change ((tick now clock).run.run c).2.session.isConnected
      generalize (tick now clock).run.run c = run at hticks hsilent ⊢
      cases hticks with
      | offline hover => exact absurd hconnected hover
      | stuck _ hupdate => exact absurd (says_update hupdate) hsilent
      | broken _ hupdate => exact absurd ((says_update hupdate).after (says_pump clock _)) hsilent
      | ended _ hupdate => exact absurd ((says_update hupdate).after (says_pump clock _)) hsilent
      | beats _ _ _ hstill =>
        have hstill' := of_decide_eq_true hstill
        exact decide_eq_true (phase_beat (· = .connected) now clock.wall _ hstill')
    | stop =>
      -- The farewell is a single byte.
      obtain rfl := Option.some.inj hframe
      exact absurd hshorter (Cut.not_shorter_singleton hheard)
    | sendRaw bytes =>
      exact decide_eq_true (phase_sendRaw (· = .connected) bytes c hphase)
    | send packet =>
      exact decide_eq_true (phase_send (· = .connected) packet c hphase)
    | _ => cases hframe

/-! ## Whole sessions -/

/-- Nothing follows the end of a session. -/
theorem pairwise_history (steps : List (Step τ δ α)) (c : Client (Logged τ) δ α) :
    (c.history (steps.map Step.logged)).Pairwise fun d e =>
      d.after.session.phase = .stopped → e.accepted = [] := by
  induction steps generalizing c with
  | nil => exact .nil
  | cons step steps ih =>
    refine .cons ?_ (ih _)
    intro e he hstopped
    exact silent_of_stopped hstopped steps e he

/-- **Frames are aligned until one is cut short, and nobody stops after that.**  Over any transport,
every deed since the start brings its own frame, a part of it or nothing.  Until one is cut short,
frames are aligned.  The session stays connected then, and only its end is final. -/
theorem aligned_until_cut {c : Client (Logged τ) δ α} {now : Instant}
    (hstart : ((start now).run.run c).1 = .ok ()) (steps : List (Step τ δ α)) :
    let session := c.history ((Step.call (.start now) :: steps).map Step.logged)
    session.map (Deed.map unlogged) = c.unlogged.history (.call (.start now) :: steps) ∧
      (∀ d ∈ session, d.Accounts Cut.Shorter) ∧
      (∀ past d, past ++ [d] <+: session → (∀ e ∈ past, ¬ e.CutShort) →
        ∃ taken, accepted d.after.transport.log = accepted c.transport.log ++ taken ∧
          Aligned (past ++ [d]) taken) ∧
      (∀ d ∈ session, d.CutShort → d.after.session.isConnected) ∧
      session.Pairwise fun d e => d.after.session.phase = .stopped → e.accepted = [] := by
  intro session
  let first := (Step.call (.start now) : Step τ δ α).logged.deed c
  have hconnected : first.after.session.phase = .connected := by
    rcases phase_start now c with ⟨e, herror, -⟩ | ⟨-, -, hconnected⟩
    · rw [hstart] at herror
      cases herror
    · exact hconnected
  have hbegan : first.after.Began := fun hidle => Phase.noConfusion (hconnected.symm.trans hidle)
  have hstep : ∀ step ∈ steps.map Step.logged, ∀ c' : Client (Logged τ) δ α, c'.Began →
      ((step.deed c').Accounts Cut.Shorter ∧
        ((step.deed c').CutShort → (step.deed c').after.session.isConnected)) ∧
      (step.deed c').after.Began := by
    intro step hmem c' hbegan
    obtain ⟨step, -, rfl⟩ := List.mem_map.1 hmem
    exact ⟨⟨deed_accounts (cuts_shorter τ) step c', connected_of_cutShort hbegan⟩,
      began_step step.logged hbegan⟩
  have hfirst : first.Accounts Cut.Shorter ∧ (first.CutShort → first.after.session.isConnected) :=
    ⟨deed_accounts (cuts_shorter τ) (.call (.start now)) c, fun _ => decide_eq_true hconnected⟩
  have hall : ∀ d ∈ session, d.Accounts Cut.Shorter ∧
      (d.CutShort → d.after.session.isConnected) :=
    List.forall_mem_cons.2 ⟨hfirst, (forall_history hstep hbegan).1⟩
  refine ⟨history_unlogged _ c, fun d hd => (hall d hd).1, ?_, fun d hd => (hall d hd).2,
    pairwise_history _ c⟩
  intro past d hpast hwhole
  have haccounts : ∀ e ∈ past ++ [d], e.Accounts Cut.Shorter :=
    fun e he => (hall e (hpast.subset he)).1
  refine ⟨(past ++ [d]).flatMap Deed.accepted, ?_, Deed.aligned_of_accounts haccounts hwhole⟩
  rw [log_until hpast, accepted_append, Deed.accepted_flatMap]

end Client

/-- A line that nothing arrives on, and that takes from each write as many bytes as its next
allowance says, and everything when none is left. -/
structure Throttled where
  allowances : List Nat

instance : Transport Throttled where
  connect _ _ := pure ()
  update := pure ()
  send data := fun line =>
    match line.allowances with
    | [] => (.ok data.length, line)
    | n :: rest => (.ok (min n data.length), ⟨rest⟩)
  receive _ := pure []
  close := pure ()
  pending _ := 0
  length_receive_le h := by
    cases h
    exact Nat.zero_le _
  pending_receive_lt h hne := by
    cases h
    exact absurd rfl hne

namespace Client

/-- A client whose second write will be cut short. -/
def throttled : Client (Logged Throttled) FixedDirectory Unit :=
  (default : Builder).build (Credential.parse "cDpaRHBaVkhCclZraENOZz09")
    (Logged.start ⟨[64, 3, 0]⟩) ⟨some (.ofAddress "localhost" 7000)⟩ () ⟨0⟩

/-- Asks for a room, and asks to leave it. -/
def twoRequests : List (Step Throttled FixedDirectory Unit) :=
  [.call (.send (requestPacket .roomCreate)), .call (.send (requestPacket .roomExit))]

def throttledHistory : List (Deed (Logged Throttled) FixedDirectory Unit) :=
  throttled.history ((Step.call (.start ⟨0⟩) :: twoRequests).map Step.logged)

/-- The first request is cut after three bytes. -/
theorem cutShort_throttled : (throttledHistory.get ⟨1, by decide⟩).CutShort := by
  have herror : (throttledHistory.get ⟨1, by decide⟩).result =
      .error (.transport (.writeStalled 2)) := by decide +kernel
  have hheard : (throttledHistory.get ⟨1, by decide⟩).accepted ≠ [] := by decide +kernel
  exact ⟨⟨_, herror⟩, hheard⟩

theorem aligned_until_cut_throttled :
    let deeds := throttledHistory.take 2
    ((start ⟨0⟩ : Operation (Logged Throttled) FixedDirectory Unit Unit).run.run throttled).1 =
        .ok () ∧
      (∀ d ∈ throttledHistory, d.Accounts Cut.Shorter) ∧
      Aligned deeds (4 :: 0 :: 24 :: throttled.credential.token ++ [8, 0, 2]) ∧
      deeds.filterMap Deed.sent? = [4 :: 0 :: 24 :: throttled.credential.token] ∧
      deeds.getLast?.bind Deed.frame? = some [8, 0, 2, 1, 0] ∧
      ∃ d ∈ throttledHistory, d.CutShort ∧ d.after.session.isConnected := by
  intro deeds
  have hstart : ((start ⟨0⟩ : Operation (Logged Throttled) FixedDirectory Unit Unit).run.run
      throttled).1 = .ok () := by decide +kernel
  obtain ⟨-, haccounts, haligned, hconnected, -⟩ := aligned_until_cut hstart twoRequests
  have hpast : [throttledHistory.get ⟨0, by decide⟩] ++ [throttledHistory.get ⟨1, by decide⟩] <+:
      throttledHistory := ⟨[throttledHistory.get ⟨2, by decide⟩], rfl⟩
  have hwhole : ∀ e ∈ [throttledHistory.get ⟨0, by decide⟩], ¬ e.CutShort := by
    have hresult : (throttledHistory.get ⟨0, by decide⟩).result = .ok () := by decide +kernel
    rw [List.forall_mem_singleton]
    rintro ⟨⟨e, herror⟩, -⟩
    rw [hresult] at herror
    cases herror
  have hbytes : accepted (throttledHistory.get ⟨1, by decide⟩).after.transport.log =
      4 :: 0 :: 24 :: throttled.credential.token ++ [8, 0, 2] := by decide +kernel
  have hmem : throttledHistory.get ⟨1, by decide⟩ ∈ throttledHistory := List.get_mem ..
  obtain ⟨taken, htaken, hdeeds⟩ := haligned _ _ hpast hwhole
  obtain rfl : taken = _ := htaken.symm.trans hbytes
  exact ⟨hstart, haccounts, hdeeds, by decide +kernel, by decide +kernel, _, hmem,
    cutShort_throttled, hconnected _ hmem cutShort_throttled⟩

/-- After three bytes of one request, the other one follows. -/
theorem written_after_cut :
    ((start ⟨0⟩ : Operation (Logged Throttled) FixedDirectory Unit Unit).run.run throttled).1 =
        .ok () ∧
      (∀ step ∈ twoRequests, ¬ step.isRaw) ∧
      ¬ throttledHistory.Pairwise fun d e => d.CutShort → e.accepted = [] := by
  refine ⟨by decide +kernel, by simp [twoRequests, Step.isRaw], ?_⟩
  intro hpairwise
  have hsilent := List.pairwise_iff_getElem.1 hpairwise 1 2 (by decide) (by decide) (by decide)
    cutShort_throttled
  have hheard : (throttledHistory.get ⟨2, by decide⟩).accepted ≠ [] := by decide +kernel
  exact hheard hsilent

end Client

end Multiplayer
