import Multiplayer.Proofs.Chronicle
import Multiplayer.Proofs.Client.Mirroring
import Multiplayer.Proofs.Transport.Log

/-!
# Runs of a client

A run is a list of steps: the application calls the client, or others change what the client shares
with them.  Its history has every step with its result, and the client before and after it.

* `Reachable.after`: a run leads to a client that calls lead to.
* `forall_history`: what every single step keeps and shows, a whole history keeps and shows.
* `history_mirrors`: runs that are mirrored step by step have the same history.
* `history_unlogged`: a client whose transport keeps a log does what it does without, so that the
  log tells how the client uses a transport of any kind.
-/

namespace Multiplayer

/-- What happens to a client. -/
inductive Step (τ δ α : Type) where
  | call (call : Call α)
  /-- Others change what the client shares with them. -/
  | shared (transport : τ → τ) (directory : δ → δ) (state : HandlerState α → HandlerState α)

/-- A step as it has happened. -/
structure Deed (τ δ α : Type) where
  /-- What was called, if the application has called the client. -/
  call? : Option (Call α)
  before : Client τ δ α
  result : Except ClientError Unit
  after : Client τ δ α

variable {τ τ' δ α : Type}

namespace Step

def call? : Step τ δ α → Option (Call α)
  | .call made => some made
  | .shared .. => none

def take [Transport τ] [Directory δ] : Step τ δ α → Operation τ δ α Unit
  | .call made => made.perform
  | .shared transport directory state => modify fun c =>
    { c with
      transport := transport c.transport
      directory := directory c.directory
      state := state c.state }

def deed [Transport τ] [Directory δ] (step : Step τ δ α) (c : Client τ δ α) : Deed τ δ α :=
  ⟨step.call?, c, (step.take.run.run c).1, (step.take.run.run c).2⟩

/-- The step for a client whose transport keeps a log.  The log is that of the client: others do not
write to it. -/
def logged : Step τ δ α → Step (Logged τ) δ α
  | .call made => .call made
  | .shared transport directory state =>
    .shared (fun t => { t with transport := transport t.transport }) directory state

/-- From here on the pipe takes so many bytes at once. -/
def limit (acceptLimit : Option Nat) : Step Pipe δ α :=
  .shared (fun pipe => { pipe with acceptLimit }) (fun directory => directory) fun state => state

end Step

namespace Deed

/-- The deed with both clients as a view shows them. -/
def map (view : Client τ δ α → Client τ' δ α) (d : Deed τ δ α) : Deed τ' δ α :=
  ⟨d.call?, view d.before, d.result, view d.after⟩

/-- How the transport was used in the meantime. -/
def used (d : Deed (Logged τ) δ α) : List Exchange :=
  d.after.transport.log.drop d.before.transport.log.length

/-- The bytes that the transport has taken in the meantime. -/
def accepted (d : Deed (Logged τ) δ α) : Bytes := Multiplayer.accepted d.used

theorem accepted_flatMap (history : List (Deed (Logged τ) δ α)) :
    Multiplayer.accepted (history.flatMap used) = history.flatMap accepted :=
  List.flatMap_assoc

theorem used_eq {d : Deed (Logged τ) δ α} {used : List Exchange}
    (h : d.after.transport.log = d.before.transport.log ++ used) : d.used = used := by
  rw [Deed.used, h, List.drop_left]

theorem accepted_of_same {d : Deed (Logged τ) δ α} (h : d.after.transport = d.before.transport) :
    d.accepted = [] := by
  have hused : d.used = [] := used_eq (by rw [h, List.append_nil])
  rw [accepted, hused, accepted_nil]

end Deed

namespace Client

/-- The client without the log of its transport. -/
abbrev unlogged (c : Client (Logged τ) δ α) : Client τ δ α := c.viewed Logged.transport 0

section

variable [Transport τ] [Directory δ]

/-- What happens in a run, step by step. -/
def history : Client τ δ α → List (Step τ δ α) → List (Deed τ δ α)
  | _, [] => []
  | c, step :: steps => step.deed c :: history (step.deed c).after steps

/-- The client after a run. -/
def after (c : Client τ δ α) (steps : List (Step τ δ α)) : Client τ δ α :=
  steps.foldl (fun c step => (step.take.run.run c).2) c

theorem after_cons (c : Client τ δ α) (step : Step τ δ α) (steps : List (Step τ δ α)) :
    c.after (step :: steps) = (step.deed c).after.after steps := rfl

theorem history_eq_chronicle (c : Client τ δ α) (steps : List (Step τ δ α)) :
    c.history steps = chronicle (fun c step => (step.deed c, (step.deed c).after)) c steps := by
  induction steps generalizing c with
  | nil => rfl
  | cons step steps ih => exact congrArg (step.deed c :: ·) (ih (step.deed c).after)

theorem Reachable.after {c : Client τ δ α} (h : c.Reachable) (steps : List (Step τ δ α)) :
    (c.after steps).Reachable := by
  induction steps generalizing c with
  | nil => exact h
  | cons step steps ih =>
    cases step with
    | call made => exact ih (h.call made)
    | shared => exact ih (h.shared _ _ _)

/-- What every step of a run keeps holds in the end, and what every step shows while that holds is
shown by every deed. -/
theorem forall_history {P : Client τ δ α → Prop} {Q : Deed τ δ α → Prop}
    {steps : List (Step τ δ α)}
    (hstep : ∀ step ∈ steps, ∀ c, P c → Q (step.deed c) ∧ P (step.deed c).after)
    {c : Client τ δ α} (h : P c) : (∀ d ∈ c.history steps, Q d) ∧ P (c.after steps) := by
  induction steps generalizing c with
  | nil => exact ⟨List.forall_mem_nil _, h⟩
  | cons step steps ih =>
    obtain ⟨hshown, hkept⟩ := hstep step List.mem_cons_self c h
    have hlater := ih (fun other hmem => hstep other (List.mem_cons_of_mem _ hmem)) hkept
    refine ⟨?_, hlater.2⟩
    intro d hd
    rcases List.mem_cons.1 hd with rfl | hd
    · exact hshown
    · exact hlater.1 d hd

/-- Runs that are mirrored step by step have the same history. -/
theorem history_mirrors [Transport τ'] {ι : Type} {view : Client τ δ α → Client τ' δ α}
    {x : ι → Step τ δ α} {y : ι → Step τ' δ α} (hcall : ∀ i, (y i).call? = (x i).call?)
    (hmirrors : ∀ i, Attempt.Mirrors view (x i).take (y i).take) (steps : List ι)
    (c : Client τ δ α) :
    (view c).history (steps.map y) = (c.history (steps.map x)).map (Deed.map view) := by
  induction steps generalizing c with
  | nil => rfl
  | cons i steps ih =>
    have hdeed : (y i).deed (view c) = ((x i).deed c).map view := by
      simp only [Step.deed, Deed.map, hcall, hmirrors i c]
    simp only [List.map_cons, history, hdeed]
    exact congrArg _ (ih _)

end

variable [Transport τ] [Directory δ]

/-- Without its log, a client does the same. -/
theorem history_unlogged (steps : List (Step τ δ α)) (c : Client (Logged τ) δ α) :
    (c.history (steps.map Step.logged)).map (Deed.map unlogged) = c.unlogged.history steps := by
  have hcall (step : Step τ δ α) : step.call? = step.logged.call? := by cases step <;> rfl
  have hmirrors (step : Step τ δ α) : Attempt.Mirrors unlogged step.logged.take step.take := by
    cases step with
    | call call => exact mirrors_perform Logged.mirrors call
    | shared => exact Attempt.Mirrors.modify fun _ => rfl
  have hhistory := history_mirrors (y := fun step => step) hcall hmirrors steps c
  rw [List.map_id'] at hhistory
  exact hhistory.symm

/-- With other numbers of refused writes on record, a client does the same. -/
theorem history_withRefused (refused : Nat) (steps : List (Step τ δ α)) (c : Client τ δ α) :
    (c.viewed (fun t => t) refused).history steps =
      (c.history steps).map (Deed.map (viewed (fun t => t) refused)) := by
  have hmirrors (step : Step τ δ α) :
      Attempt.Mirrors (viewed (fun t => t) refused) step.take step.take := by
    cases step with
    | call call => exact mirrors_perform .refl call
    | shared => exact Attempt.Mirrors.modify fun _ => rfl
  have hhistory := history_mirrors (x := fun step => step) (y := fun step => step)
    (fun _ => rfl) hmirrors steps c
  rwa [List.map_id'] at hhistory

end Client

end Multiplayer
