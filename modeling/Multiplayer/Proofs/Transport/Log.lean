import Mathlib.Control.Monad.Basic
import Multiplayer.Proofs.Transport.Delivery
import Multiplayer.Transport.Pipe

/-!
# Transports that keep a log

A log has every use of a transport, in order and with its outcome.  Any transport can be made to
keep one, and does the same as without it (`Logged.mirrors`).

* `accepted` and `refusals` read off a log which bytes were taken, and how many writes were refused:
  a refused send is the end of a write.
* `Delivers`: the exchanges that a delivery is made of.
* `Cut.Shorter` and `Cut.Nothing`: what is left of a write that fails.  Over any transport it is a
  part of what was to be written, and over a pipe nothing (`cuts_shorter`, `cuts_nothing`).
* `Pipe.keeps_outbound`: the other end of a pipe gets what the log says.
-/

namespace Multiplayer

/-- One use of a transport, with its outcome. -/
inductive Exchange where
  | connect (host : String) (port : UInt16) (result : Except TransportError Unit)
  | update (result : Except TransportError Unit)
  | send (offered : Bytes) (result : Except TransportError Nat)
  | receive (wanted : Nat) (result : Except TransportError Bytes)
  | close (result : Except TransportError Unit)
deriving DecidableEq

namespace Exchange

/-- The bytes that the transport has taken. -/
def taken : Exchange → Bytes
  | .send offered (.ok n) => offered.take n
  | _ => []

/-- Whether the transport has refused to go on with a write. -/
def isRefusal : Exchange → Bool
  | .send _ (.ok n) => n = 0
  | .send _ (.error _) => true
  | _ => false

/-- Whether bytes were offered to the transport. -/
def isSend : Exchange → Bool
  | .send .. => true
  | _ => false

end Exchange

/-! ## Reading a log -/

/-- All bytes that were taken, in order. -/
def accepted (log : List Exchange) : Bytes := log.flatMap Exchange.taken

/-- How many writes were refused. -/
def refusals (log : List Exchange) : Nat := log.countP Exchange.isRefusal

@[simp] theorem accepted_nil : accepted [] = [] := rfl

theorem accepted_cons (exchange : Exchange) (log : List Exchange) :
    accepted (exchange :: log) = exchange.taken ++ accepted log :=
  List.flatMap_cons

/-- What was taken by an attempt and by those behind it. -/
theorem accepted_send (data : Bytes) (n : Nat) (log : List Exchange) :
    accepted (.send data (.ok n) :: log) = data.take n ++ accepted log :=
  accepted_cons ..

/-- Only sends are taken. -/
theorem accepted_filter_isSend (log : List Exchange) :
    accepted (log.filter Exchange.isSend) = accepted log := by
  induction log with
  | nil => rfl
  | cons exchange log ih =>
    cases exchange with
    | send => rw [List.filter_cons_of_pos rfl, accepted_cons, accepted_cons, ih]
    | _ => exact ih

@[simp] theorem accepted_append (log more : List Exchange) :
    accepted (log ++ more) = accepted log ++ accepted more :=
  List.flatMap_append

@[simp] theorem refusals_append (log more : List Exchange) :
    refusals (log ++ more) = refusals log + refusals more :=
  List.countP_append

/-! ## Keeping a log -/

/-- A transport with the log of its uses. -/
structure Logged (τ : Type) where
  transport : τ
  log : List Exchange

namespace Logged

variable {τ α : Type}

/-- A transport that has not been used since the log was begun. -/
def start (transport : τ) : Logged τ := ⟨transport, []⟩

/-- Does something to the transport and enters it into the log. -/
def enter (entry : Except TransportError α → Exchange) (link : Link τ α) : Link (Logged τ) α :=
  fun t =>
    let (result, transport) := link.run.run t.transport
    (result, ⟨transport, t.log ++ [entry result]⟩)

theorem run_enter (entry : Except TransportError α → Exchange) (link : Link τ α) (t : Logged τ) :
    (enter entry link).run.run t =
      ((link.run.run t.transport).1,
        ⟨(link.run.run t.transport).2, t.log ++ [entry (link.run.run t.transport).1]⟩) := rfl

theorem mirrors_enter (entry : Except TransportError α → Exchange) (link : Link τ α) :
    Attempt.Mirrors transport (enter entry link) link := fun _ => rfl

variable [Transport τ]

instance : Transport (Logged τ) where
  connect host port := enter (.connect host port) (Transport.connect host port)
  update := enter .update Transport.update
  send data := enter (.send data) (Transport.send data)
  receive wanted := enter (.receive wanted) (Transport.receive wanted)
  close := enter .close Transport.close
  pending t := Transport.pending t.transport
  length_receive_le {_ t _} h := Transport.length_receive_le (t := t.transport) h
  pending_receive_lt {_ t _} h hne := Transport.pending_receive_lt (t := t.transport) h hne

/-- Without its log, the transport does what it does without keeping one. -/
theorem mirrors : Transport.Mirrors (transport : Logged τ → τ) where
  connect _ _ := mirrors_enter _ _
  update := mirrors_enter _ _
  send _ := mirrors_enter _ _
  receive _ := mirrors_enter _ _
  close := mirrors_enter _ _

end Logged

/-! ## Writes -/

/-- What may be left of a write that fails, in terms of the bytes that were to be written. -/
abbrev Cut := (part data : Bytes) → Prop

/-- Some of the bytes from the front, but not all. -/
def Cut.Shorter : Cut := fun part data => part <+: data ∧ part ≠ data

/-- No byte at all. -/
def Cut.Nothing : Cut := fun part _ => part = []

/-- The log of writing some bytes: all of them were taken, or one refusal has cut them. -/
inductive Writes {ε : Type} (cut : Cut) (data : Bytes) : Except ε Unit → List Exchange → Prop
  | whole {log} (htaken : accepted log = data) (hrefusals : refusals log = 0) :
    Writes cut data (.ok ()) log
  | cutOff {log} (e : ε) (htaken : cut (accepted log) data) (hrefusals : refusals log = 1) :
    Writes cut data (.error e) log

/-- Every write over the transport is whole or cut like that. -/
def Cuts (τ : Type) [Transport τ] (cut : Cut) : Prop :=
  ∀ (data : Bytes) (t : Logged τ), ∃ log,
    ((Transport.deliver data).run.run t).2.log = t.log ++ log ∧
      Writes cut data ((Transport.deliver data).run.run t).1 log

namespace Logged

variable {τ : Type} [Transport τ]

theorem run_send (data : Bytes) (t : Logged τ) :
    (Transport.send data).run.run t =
      (((Transport.send data).run.run t.transport).1,
        ⟨((Transport.send data).run.run t.transport).2,
          t.log ++ [.send data ((Transport.send data).run.run t.transport).1]⟩) := rfl

end Logged

theorem Cut.shorter_nil {data : Bytes} (h : data ≠ []) : Cut.Shorter [] data :=
  ⟨List.nil_prefix, h.symm⟩

/-- What a later part of a write leaves is left of the whole. -/
theorem Cut.Shorter.behind {part data : Bytes} {n : Nat} (h : Cut.Shorter part (data.drop n)) :
    Cut.Shorter (data.take n ++ part) data := by
  obtain ⟨hfront, hne⟩ := h
  constructor
  · have hjoined := (List.prefix_append_right_inj (data.take n)).2 hfront
    rwa [List.take_append_drop] at hjoined
  · intro heq
    apply hne
    rw [← List.append_right_inj (data.take n), heq, List.take_append_drop]

/-- The exchanges of delivering some bytes over a transport, one after another: nothing is sent of
nothing, a send that fails or takes nothing is the last one, and behind a send that takes something
the rest is delivered. -/
inductive Delivers : Bytes → Except TransportError Unit → List Exchange → Prop
  | done : Delivers [] (.ok ()) []
  | failed {data e} (hdata : data ≠ []) : Delivers data (.error e) [.send data (.error e)]
  | stalled {data} (hdata : data ≠ []) :
    Delivers data (.error (.writeStalled data.length)) [.send data (.ok 0)]
  | goesOn {data n result log} (hdata : data ≠ []) (hn : n ≠ 0)
    (hrest : Delivers (data.drop n) result log) :
    Delivers data result (.send data (.ok n) :: log)

theorem delivers_deliver {τ : Type} [Transport τ] (data : Bytes) (t : Logged τ) : ∃ log,
    ((Transport.deliver data).run.run t).2.log = t.log ++ log ∧
      Delivers data ((Transport.deliver data).run.run t).1 log := by
  induction data using Transport.deliver.induct generalizing t with
  | case1 =>
    rw [Transport.deliver, dif_pos rfl]
    exact ⟨[], (List.append_nil _).symm, .done⟩
  | case2 data hdata ih =>
    rw [Transport.deliver, dif_neg hdata, Attempt.run_bind, Logged.run_send]
    rcases (Transport.send data).run.run t.transport with ⟨e | n, transport⟩
    · exact ⟨[.send data (.error e)], rfl, .failed hdata⟩
    · by_cases hstalled : n = 0
      · subst hstalled
        exact ⟨[.send data (.ok 0)], rfl, .stalled hdata⟩
      · simp only [hstalled, dite_false]
        obtain ⟨log, hlog, hrest⟩ := ih n hstalled ⟨transport, t.log ++ [.send data (.ok n)]⟩
        refine ⟨.send data (.ok n) :: log, ?_, .goesOn hdata hstalled hrest⟩
        rw [hlog, List.append_assoc]
        rfl

/-- A delivery takes everything without a refusal, or a part before the one refusal. -/
theorem Delivers.writes {data : Bytes} {result : Except TransportError Unit} {log : List Exchange}
    (h : Delivers data result log) : Writes Cut.Shorter data result log := by
  induction h with
  | done => exact .whole rfl rfl
  | failed hdata => exact .cutOff _ (Cut.shorter_nil hdata) rfl
  | stalled hdata => exact .cutOff _ (Cut.shorter_nil hdata) rfl
  | @goesOn data n result log hdata hn hrest ih =>
    have hrefusals : refusals (.send data (.ok n) :: log) = refusals log := by
      simp [refusals, Exchange.isRefusal, hn]
    cases ih with
    | whole hrest hnone =>
      refine .whole ?_ (hrefusals.trans hnone)
      rw [accepted_send, hrest, List.take_append_drop]
    | cutOff e hrest hone =>
      refine .cutOff e ?_ (hrefusals.trans hone)
      rw [accepted_send]
      exact hrest.behind

/-- Over any transport, a write that fails leaves a part of the bytes and not all. -/
theorem cuts_shorter (τ : Type) [Transport τ] : Cuts τ Cut.Shorter := fun data t =>
  have ⟨log, hlog, hdelivers⟩ := delivers_deliver data t
  ⟨log, hlog, hdelivers.writes⟩

namespace Pipe

theorem run_send (data : Bytes) (pipe : Pipe) :
    (send data).run.run pipe =
      if pipe.closed then (.error .notConnected, pipe)
      else (.ok (upTo pipe.acceptLimit data).length,
        { pipe with
          attempts := pipe.attempts + 1
          outbound := (upTo pipe.acceptLimit data).reverseAux pipe.outbound }) := by
  by_cases hclosed : pipe.closed
  · simp only [send, Attempt.run_bind, Attempt.run_get, hclosed, if_true, Attempt.run_throw]
  · simp only [send, Attempt.run_bind, Attempt.run_get, hclosed, Bool.false_eq_true, if_false,
      Attempt.run_pure, Attempt.run_set]

theorem length_upTo_pos {limit : Option Nat} (hlimit : limit ≠ some 0) {data : Bytes}
    (hdata : data ≠ []) : (upTo limit data).length ≠ 0 := by
  have hpos := List.length_pos_iff.2 hdata
  cases limit with
  | none => exact Nat.pos_iff_ne_zero.1 hpos
  | some limit =>
    have : limit ≠ 0 := fun h => hlimit (congrArg some h)
    simp only [upTo, List.length_take]
    omega

/-- An open pipe that takes a byte at a time at least takes everything. -/
theorem deliver_of_open (data : Bytes) {pipe : Pipe} (hopen : ¬ pipe.closed)
    (hlimit : pipe.acceptLimit ≠ some 0) :
    ((Transport.deliver data).run.run pipe).1 = .ok () := by
  induction data using Transport.deliver.induct generalizing pipe with
  | case1 =>
    rw [Transport.deliver, dif_pos rfl]
    rfl
  | case2 data hdata ih =>
    have hsend : (Transport.send data).run.run pipe = _ := run_send data pipe
    rw [if_neg hopen] at hsend
    have htaken := length_upTo_pos hlimit hdata
    rw [Transport.deliver, dif_neg hdata, Attempt.run_bind, hsend]
    simp only [htaken, dite_false]
    exact ih _ htaken hopen hlimit

/-- The other end gets what was delivered behind what was sent before. -/
theorem takeOutbound_of_deliver (data : Bytes) {pipe : Pipe}
    (h : ((Transport.deliver data).run.run pipe).1 = .ok ()) :
    ((Transport.deliver data).run.run pipe).2.takeOutbound.1 = pipe.takeOutbound.1 ++ data := by
  induction data using Transport.deliver.induct generalizing pipe with
  | case1 =>
    rw [Transport.deliver, dif_pos rfl]
    exact (List.append_nil _).symm
  | case2 data hdata ih =>
    rw [Transport.deliver, dif_neg hdata, Attempt.run_bind] at h ⊢
    rcases hsend : (Transport.send data).run.run pipe with ⟨e | n, pipe'⟩
    · rw [hsend] at h
      cases h
    rw [hsend] at h
    by_cases hn : n = 0
    · simp only [hn, dite_true] at h
      cases h
    · simp only [hn, dite_false] at h ⊢
      have hsent : ((send data).run.run pipe).1 = .ok n := congrArg Prod.fst hsend
      have hgot : pipe'.takeOutbound.1 = pipe.takeOutbound.1 ++ data.take n := by
        rw [← takeOutbound_of_send hsent]
        exact congrArg (·.2.takeOutbound.1) hsend.symm
      rw [ih n hn h, hgot, List.append_assoc, List.take_append_drop]

/-- A write that a pipe refuses is refused at once: whether it takes anything does not change while
it is written to. -/
theorem cuts_nothing : Cuts Pipe Cut.Nothing := by
  intro data t
  by_cases htakes : data = [] ∨ ¬ t.transport.closed ∧ t.transport.acceptLimit ≠ some 0
  · obtain ⟨log, hlog, hwrites⟩ := cuts_shorter Pipe data t
    have hresult : ((Transport.deliver data).run.run t).1 = .ok () := by
      rcases htakes with rfl | ⟨hopen, hlimit⟩
      · rw [Transport.deliver, dif_pos rfl]
        rfl
      · have hsame := Transport.mirrors_deliver Logged.mirrors.send data t
        rw [← deliver_of_open data hopen hlimit, hsame]
    rw [hresult] at hwrites ⊢
    cases hwrites with
    | whole htaken hrefusals => exact ⟨log, hlog, .whole htaken hrefusals⟩
  · have hdata : data ≠ [] := fun h => htakes (.inl h)
    have hsend : (Transport.send data).run.run t.transport = _ := run_send data t.transport
    rw [Transport.deliver, dif_neg hdata, Attempt.run_bind, Logged.run_send, hsend]
    by_cases hclosed : t.transport.closed
    · rw [if_pos hclosed]
      exact ⟨[.send data (.error .notConnected)], rfl, .cutOff _ rfl rfl⟩
    · have hlimit : t.transport.acceptLimit = some 0 :=
        Decidable.byContradiction fun h => htakes (.inr ⟨hclosed, h⟩)
      rw [if_neg hclosed, hlimit]
      exact ⟨[.send data (.ok 0)], rfl, .cutOff _ rfl rfl⟩

/-- What is entered into the log of a pipe tells what the other end gets. -/
theorem outbound_enter {α : Type} {entry : Except TransportError α → Exchange} {link : Link Pipe α}
    (hlink : ∀ pipe : Pipe, (link.run.run pipe).2.takeOutbound.1 =
      pipe.takeOutbound.1 ++ (entry (link.run.run pipe).1).taken)
    (before : Bytes) (log : List Exchange) :
    (Logged.enter entry link).Keeps fun t => ∃ more, t.log = log ++ more ∧
      t.transport.takeOutbound.1 = before ++ accepted more := by
  rintro t ⟨more, hlog, hgot⟩
  refine ⟨more ++ [entry (link.run.run t.transport).1], ?_, ?_⟩
  · rw [Logged.run_enter, hlog, List.append_assoc]
  · rw [Logged.run_enter, hlink, hgot, accepted_append, List.append_assoc]
    simp [accepted]

/-- The other end gets the bytes that a pipe has taken, and no others. -/
theorem keeps_outbound (before : Bytes) (log : List Exchange) :
    Transport.Keeps fun t : Logged Pipe => ∃ more, t.log = log ++ more ∧
      t.transport.takeOutbound.1 = before ++ accepted more where
  connect _ _ := outbound_enter (fun _ => (List.append_nil _).symm) before log
  update := outbound_enter (fun _ => (List.append_nil _).symm) before log
  send data := by
    refine outbound_enter (fun pipe => ?_) before log
    change ((send data).run.run pipe).2.takeOutbound.1 =
      pipe.takeOutbound.1 ++ (Exchange.send data ((send data).run.run pipe).1).taken
    cases hresult : ((send data).run.run pipe).1 with
    | ok n => exact takeOutbound_of_send hresult
    | error e =>
      rw [run_send] at hresult ⊢
      split at hresult
      · rw [if_pos ‹_›]
        exact (List.append_nil _).symm
      · cases hresult
  receive wanted := by
    refine outbound_enter (fun pipe => ?_) before log
    change ((receive wanted).run.run pipe).2.takeOutbound.1 = pipe.takeOutbound.1 ++ []
    rw [List.append_nil]
    simp only [receive, ExceptT.run, StateT.run]
    split <;> rfl
  close := outbound_enter (fun _ => (List.append_nil _).symm) before log

end Pipe

end Multiplayer
