/-!
# Attempts

An attempt does something to a state and gives a value or fails.  What it has done to the state
before it fails stays done.  Reading a payload, using a transport, handling a frame and driving a
client are attempts on four kinds of state.

* `run_bind`: the second of two attempts goes on from the state that the first has left, and is
  not made if the first fails.
* `run_tryCatch`: a failure is handled in the state in which it happened.
-/

namespace Multiplayer

/-- Something done to a state of type `σ` that gives an `α` or fails with an `ε`. -/
abbrev Attempt (ε σ α : Type) := ExceptT ε (StateM σ) α

namespace Attempt

variable {ε σ α β : Type}

/-- Takes a result over as it is. -/
def ofExcept (result : Except ε α) : Attempt ε σ α := fun s => (result, s)

/-! ## What the steps do to the state -/

@[simp] theorem run_pure (a : α) (s : σ) : (pure a : Attempt ε σ α).run.run s = (.ok a, s) := rfl

@[simp] theorem run_throw (e : ε) (s : σ) :
    (throw e : Attempt ε σ α).run.run s = (.error e, s) := rfl

@[simp] theorem run_get (s : σ) : (get : Attempt ε σ σ).run.run s = (.ok s, s) := rfl

@[simp] theorem run_set (s s' : σ) : (set s' : Attempt ε σ PUnit).run.run s = (.ok ⟨⟩, s') := rfl

@[simp] theorem run_modify (f : σ → σ) (s : σ) :
    (modify f : Attempt ε σ PUnit).run.run s = (.ok ⟨⟩, f s) := rfl

theorem run_bind (x : Attempt ε σ α) (f : α → Attempt ε σ β) (s : σ) :
    (x >>= f).run.run s = match x.run.run s with
      | (.ok a, s') => (f a).run.run s'
      | (.error e, s') => (.error e, s') := by
  simp only [ExceptT.run_bind, StateT.run_bind]
  change (match x.run.run s with
    | (r, s') => _) = _
  rcases x.run.run s with ⟨_ | _, _⟩ <;> rfl

theorem run_bind_ok {x : Attempt ε σ α} {f : α → Attempt ε σ β} {s s'' : σ} {b : β}
    (h : (x >>= f).run.run s = (.ok b, s'')) :
    ∃ a s', x.run.run s = (.ok a, s') ∧ (f a).run.run s' = (.ok b, s'') := by
  rw [run_bind] at h
  rcases hx : x.run.run s with ⟨_ | a, s'⟩
  · rw [hx] at h
    cases h
  · rw [hx] at h
    exact ⟨a, s', rfl, h⟩

/-- Of two attempts the first fails, or the second in the state that the first has left. -/
theorem run_bind_error_iff {x : Attempt ε σ α} {f : α → Attempt ε σ β} {s s'' : σ} {e : ε} :
    (x >>= f).run.run s = (.error e, s'') ↔
      x.run.run s = (.error e, s'') ∨
        ∃ a s', x.run.run s = (.ok a, s') ∧ (f a).run.run s' = (.error e, s'') := by
  rw [run_bind]
  constructor
  · intro h
    rcases hx : x.run.run s with ⟨_ | a, s'⟩
    · rw [hx] at h
      cases h
      exact .inl rfl
    · rw [hx] at h
      exact .inr ⟨a, s', rfl, h⟩
  · rintro (h | ⟨a, s', hx, hf⟩)
    · rw [h]
    · rw [hx]
      exact hf

theorem run_tryCatch (x : Attempt ε σ α) (f : ε → Attempt ε σ α) (s : σ) :
    (tryCatch x f).run.run s = match x.run.run s with
      | (.ok a, s') => (.ok a, s')
      | (.error e, s') => (f e).run.run s' := by
  change ((x.run >>= fun r => match r with
    | .ok a => pure (.ok a)
    | .error e => (f e).run).run s) = _
  rw [StateT.run_bind]
  change (match x.run.run s with
    | (r, s') => _) = _
  rcases x.run.run s with ⟨_ | _, _⟩ <;> rfl

end Attempt

end Multiplayer
