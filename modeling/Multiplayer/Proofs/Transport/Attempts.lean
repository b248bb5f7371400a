import Multiplayer.Proofs.Transport.Log

/-!
# Every attempt of a delivery

A transport may take any part of what it is offered, take nothing, or fail, and it may do so in any
order.  Whatever it does, delivering offers it exactly what is left, and what was taken in the end
is the front of the data (`delivers_exactly`).

* `Delivers.isSend`, `Delivers.ne_nil`: a delivery only sends, and it does if there is anything.
* `Delivers.offers`: what an attempt offers, joined to what was taken before, is the data.
* `Delivers.goesOn_of_refusal`: behind a refusal there is no attempt.
* `Delivers.stopped`: where a delivery that fails has stopped.
* `Delivers.length_le`: there are no more attempts than bytes.
-/

namespace Multiplayer

/-- What the exchanges of delivering `data` come to, when the delivery ends with `result`. -/
structure Delivery (data : Bytes) (result : Except TransportError Unit) (log : List Exchange) :
    Prop where
  /-- Every attempt offers exactly the bytes that were not taken by those before it, and there are
  such bytes. -/
  offers : ∀ past exchange later, log = past ++ exchange :: later →
    ∃ rest answer, exchange = .send rest answer ∧ rest ≠ [] ∧ accepted past ++ rest = data
  /-- An attempt that fails or in which nothing is taken is the last one. -/
  goesOn : ∀ past exchange later, log = past ++ exchange :: later → exchange.isRefusal →
    later = []
  taken : accepted log <+: data
  whole : result = .ok () → accepted log = data
  /-- A delivery fails at its last attempt.  Either the transport has failed, and its error is
  passed on, or it has taken nothing, and the error tells how many bytes are left. -/
  stopped : ∀ e, result = .error e → ∃ past rest, rest ≠ [] ∧ accepted past ++ rest = data ∧
    accepted log = accepted past ∧
    (log = past ++ [.send rest (.error e)] ∨
      log = past ++ [.send rest (.ok 0)] ∧ e = .writeStalled rest.length)
  nothing : data = [] → log = []
  /-- Every attempt but the last takes a byte at least, so a delivery comes to an end. -/
  length_le : log.length ≤ data.length

namespace Delivers

variable {data : Bytes} {result : Except TransportError Unit} {log past later : List Exchange}
  {exchange : Exchange}

theorem isSend (h : Delivers data result log) : ∀ exchange ∈ log, exchange.isSend := by
  induction h with
  | done => exact List.forall_mem_nil _
  | failed | stalled => exact List.forall_mem_singleton.2 rfl
  | goesOn _ _ _ ih => exact List.forall_mem_cons.2 ⟨rfl, ih⟩

theorem ne_nil (h : Delivers data result log) (hdata : data ≠ []) : log ≠ [] := by
  cases h with
  | done => exact absurd rfl hdata
  | failed | stalled | goesOn => exact List.cons_ne_nil _ _

theorem offers (h : Delivers data result log) (hlog : log = past ++ exchange :: later) :
    ∃ rest answer, exchange = .send rest answer ∧ rest ≠ [] ∧ accepted past ++ rest = data := by
  induction h generalizing past with
  | done => exact absurd hlog.symm (List.append_ne_nil_of_right_ne_nil _ (List.cons_ne_nil _ _))
  | failed hdata | stalled hdata =>
    obtain ⟨rfl, hlast⟩ | ⟨-, hlast⟩ := List.singleton_eq_append_iff.1 hlog
    · exact ⟨_, _, (List.cons.inj hlast).1, hdata, rfl⟩
    · cases hlast
  | goesOn hdata hn hrest ih =>
    obtain ⟨rfl, hfirst⟩ | ⟨past, rfl, hrest⟩ := List.cons_eq_append_iff.1 hlog
    · exact ⟨_, _, (List.cons.inj hfirst).1, hdata, rfl⟩
    · obtain ⟨rest, answer, hexchange, hne, hjoined⟩ := ih hrest
      refine ⟨rest, answer, hexchange, hne, ?_⟩
      rw [accepted_send, List.append_assoc, hjoined, List.take_append_drop]

theorem goesOn_of_refusal (h : Delivers data result log) (hlog : log = past ++ exchange :: later)
    (hrefusal : exchange.isRefusal) : later = [] := by
  induction h generalizing past with
  | done => exact absurd hlog.symm (List.append_ne_nil_of_right_ne_nil _ (List.cons_ne_nil _ _))
  | failed hdata | stalled hdata =>
    obtain ⟨-, hlast⟩ | ⟨-, hlast⟩ := List.singleton_eq_append_iff.1 hlog
    · exact (List.cons.inj hlast).2
    · cases hlast
  | goesOn hdata hn hrest ih =>
    obtain ⟨-, hfirst⟩ | ⟨past, -, hrest⟩ := List.cons_eq_append_iff.1 hlog
    · obtain ⟨rfl, -⟩ := List.cons.inj hfirst
      exact absurd (of_decide_eq_true hrefusal) hn
    · exact ih hrest

theorem stopped {e : TransportError} (h : Delivers data (.error e) log) :
    ∃ past rest, rest ≠ [] ∧ accepted past ++ rest = data ∧ accepted log = accepted past ∧
      (log = past ++ [.send rest (.error e)] ∨
        log = past ++ [.send rest (.ok 0)] ∧ e = .writeStalled rest.length) := by
  generalize hresult : (Except.error e : Except TransportError Unit) = result at h
  induction h with
  | done => cases hresult
  | @failed data e' hdata =>
    cases hresult
    exact ⟨[], data, hdata, rfl, rfl, .inl rfl⟩
  | @stalled data hdata =>
    cases hresult
    exact ⟨[], data, hdata, rfl, rfl, .inr ⟨rfl, rfl⟩⟩
  | @goesOn data n result log hdata hn hrest ih =>
    -- What was taken first stands before what the rest of the delivery has taken.
    obtain ⟨past, rest, hne, hjoined, htaken, hlast⟩ := ih hresult
    refine ⟨.send data (.ok n) :: past, rest, hne, ?_, ?_, ?_⟩
    · rw [accepted_send, List.append_assoc, hjoined, List.take_append_drop]
    · rw [accepted_send, accepted_send, htaken]
    · exact hlast.imp (congrArg _) fun ⟨hlog, he⟩ => ⟨congrArg _ hlog, he⟩

theorem length_le (h : Delivers data result log) : log.length ≤ data.length := by
  induction h with
  | done => exact Nat.le_refl 0
  | failed hdata | stalled hdata => exact List.length_pos_iff.2 hdata
  | goesOn hdata hn hrest ih =>
    have := List.length_pos_iff.2 hdata
    rw [List.length_drop] at ih
    rw [List.length_cons]
    omega

theorem delivery (h : Delivers data result log) : Delivery data result log where
  offers _ _ _ hlog := h.offers hlog
  goesOn _ _ _ hlog hrefusal := h.goesOn_of_refusal hlog hrefusal
  taken := by
    cases h.writes with
    | whole htaken => exact htaken ▸ List.prefix_refl _
    | cutOff _ htaken => exact htaken.1
  whole hresult := by
    subst hresult
    cases h.writes with
    | whole htaken => exact htaken
  stopped e hresult := (hresult ▸ h).stopped
  nothing hdata := by
    have hlength := h.length_le
    rw [hdata, List.length_nil, Nat.le_zero] at hlength
    exact List.length_eq_zero_iff.1 hlength
  length_le := h.length_le

end Delivers

/-- Whatever a transport answers, delivering comes to an end after as many attempts as there are
bytes at most, and takes from the data exactly what it says.  The log only looks on: without it the
delivery is the same. -/
theorem Transport.delivers_exactly {τ : Type} [Transport τ] (data : Bytes) (t : τ) :
    let run := (deliver data : Link (Logged τ) Unit).run.run (Logged.start t)
    (deliver data : Link τ Unit).run.run t = (run.1, run.2.transport) ∧
      Delivery data run.1 run.2.log := by
  constructor
  · exact mirrors_deliver Logged.mirrors.send data (Logged.start t)
  · obtain ⟨log, hlog, hdelivers⟩ := delivers_deliver data (Logged.start t)
    rw [hlog]
    exact hdelivers.delivery

/-- What is left is offered again, byte for byte. -/
example :
    ((Transport.deliver [1, 2, 3, 4, 5] : Link (Logged Pipe) Unit).run.run
        (Logged.start { Pipe.empty with acceptLimit := some 2 })).2.log =
      [.send [1, 2, 3, 4, 5] (.ok 2), .send [3, 4, 5] (.ok 2), .send [5] (.ok 1)] := by
  decide +kernel

end Multiplayer
