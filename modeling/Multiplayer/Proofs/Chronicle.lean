import Mathlib.Logic.Basic

/-!
# Chronicles

Something makes one move after another, and every move leaves a deed behind.  The chronicle has the
deeds in their order.  A past of deeds is all that is known about a state, so what holds of a state
is said in terms of its past.

* `Chronicled`: what the past says about the state is kept from move to move, and it decides what
  the next deed is like.
* `Chronicled.outcome`, `Chronicled.deed`: so it does after any moves, and for each deed of a
  chronicle.
* `map_chronicle`: deeds that show their moves show all of them.
* `lastWord`: what deeds say about something that a later deed may change.
-/

namespace Multiplayer

variable {σ μ ρ β : Type} {perform : σ → μ → ρ × σ}

/-- The deeds of some moves, one after another. -/
def chronicle (perform : σ → μ → ρ × σ) : σ → List μ → List ρ
  | _, [] => []
  | s, move :: moves => (perform s move).1 :: chronicle perform (perform s move).2 moves

/-- The state after some moves. -/
def outcome (perform : σ → μ → ρ × σ) (s : σ) (moves : List μ) : σ :=
  moves.foldl (fun s move => (perform s move).2) s

theorem map_chronicle {move : ρ → μ} (h : ∀ s made, move (perform s made).1 = made) (s : σ)
    (moves : List μ) : (chronicle perform s moves).map move = moves := by
  induction moves generalizing s with
  | nil => rfl
  | cons made moves ih => rw [chronicle, List.map_cons, h, ih]

/-- From move to move, the past says `Follows` about the state and `Fits` about the next deed. -/
structure Chronicled (perform : σ → μ → ρ × σ) (Follows : List ρ → σ → Prop)
    (Fits : List ρ → ρ → Prop) : Prop where
  fits {past : List ρ} {s : σ} (h : Follows past s) (move : μ) : Fits past (perform s move).1
  follows {past : List ρ} {s : σ} (h : Follows past s) (move : μ) :
    Follows (past ++ [(perform s move).1]) (perform s move).2

namespace Chronicled

variable {Follows : List ρ → σ → Prop} {Fits : List ρ → ρ → Prop} {past : List ρ} {s : σ}

/-- After any moves, the past with their deeds says what it said before. -/
theorem outcome (h : Chronicled perform Follows Fits) (hfollows : Follows past s) (moves : List μ) :
    Follows (past ++ chronicle perform s moves) (outcome perform s moves) := by
  induction moves generalizing past s with
  | nil => rwa [chronicle, List.append_nil]
  | cons move moves ih =>
    have hlater := ih (h.follows hfollows move)
    rwa [List.append_assoc, List.singleton_append] at hlater

/-- Each deed of a chronicle is like what is before it says. -/
theorem deed (h : Chronicled perform Follows Fits) (hfollows : Follows past s) {moves : List μ}
    {before later : List ρ} {deed : ρ}
    (hchronicle : chronicle perform s moves = before ++ deed :: later) :
    Fits (past ++ before) deed := by
  induction moves generalizing past s before with
  | nil => simp [chronicle] at hchronicle
  | cons move moves ih =>
    rcases List.cons_eq_append_iff.1 hchronicle with ⟨rfl, hfirst⟩ | ⟨before, rfl, hlater⟩
    · obtain ⟨rfl, -⟩ := List.cons.inj hfirst
      rw [List.append_nil]
      exact h.fits hfollows move
    · have hfits := ih (h.follows hfollows move) hlater
      rwa [List.append_assoc, List.singleton_append] at hfits

end Chronicled

/-- The last word of some deeds on something, or `default` if there is none. -/
def lastWord (word : ρ → Option β) (default : β) (past : List ρ) : β :=
  (past.reverse.findSome? word).getD default

theorem lastWord_append (word : ρ → Option β) (default : β) (past later : List ρ) :
    lastWord word default (past ++ later) = lastWord word (lastWord word default past) later := by
  rw [lastWord, List.reverse_append, List.findSome?_append, Option.getD_or]
  rfl

/-- The last word is that of a deed, or there is none. -/
theorem lastWord_cases (word : ρ → Option β) (default : β) (past : List ρ) :
    lastWord word default past = default ∨
      ∃ deed ∈ past, word deed = some (lastWord word default past) := by
  rw [lastWord]
  cases hfound : past.reverse.findSome? word with
  | none => exact .inl rfl
  | some b =>
    obtain ⟨deed, hmem, hword⟩ := List.exists_of_findSome?_eq_some hfound
    exact .inr ⟨deed, List.mem_reverse.1 hmem, hword⟩

theorem lastWord_singleton (word : ρ → Option β) (default : β) (deed : ρ) :
    lastWord word default [deed] = (word deed).getD default := by
  rw [lastWord, List.reverse_singleton, List.findSome?_singleton]

theorem lastWord_concat (word : ρ → Option β) (default : β) (past : List ρ) (deed : ρ) :
    lastWord word default (past ++ [deed]) = (word deed).getD (lastWord word default past) := by
  rw [lastWord_append, lastWord_singleton]

end Multiplayer
