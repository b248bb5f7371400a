import Multiplayer.Attempt

/-!
# What attempts keep and do not see

* `Keeps`: a property of the state outlives the attempt, also when the attempt fails.
* `Mirrors`: another attempt does the same to what a view shows of the state.
* `Blind`: the attempt does the same after a change of the state, and leaves that change alone.
* `Relates`: two attempts on related states have the same result, and leave related states.

Attempts that are put together keep what their parts keep, are mirrored if their parts are, and so
on.
-/

namespace Multiplayer.Attempt

variable {ε σ α β : Type} {P : σ → Prop}

/-- The property holds after the attempt if it held before, whether the attempt succeeds or not. -/
def Keeps (P : σ → Prop) (x : Attempt ε σ α) : Prop := ∀ s, P s → P (x.run.run s).2

theorem Keeps.pure (a : α) : Keeps P (pure a : Attempt ε σ α) := fun _ h => h

theorem Keeps.throw (e : ε) : Keeps P (throw e : Attempt ε σ α) := fun _ h => h

theorem Keeps.ofExcept (result : Except ε α) : Keeps P (ofExcept result : Attempt ε σ α) :=
  fun _ h => h

theorem Keeps.modify {f : σ → σ} (h : ∀ s, P s → P (f s)) :
    Keeps P (modify f : Attempt ε σ PUnit) := h

theorem Keeps.set {s : σ} (h : P s) : Keeps P (set s : Attempt ε σ PUnit) := fun _ _ => h

theorem Keeps.bind {x : Attempt ε σ α} {f : α → Attempt ε σ β} (hx : Keeps P x)
    (hf : ∀ a, Keeps P (f a)) : Keeps P (x >>= f) := by
  intro s hs
  have hkept := hx s hs
  rw [run_bind]
  rcases hrun : x.run.run s with ⟨_ | a, s'⟩
  · rwa [hrun] at hkept
  · rw [hrun] at hkept
    exact hf a s' hkept

/-- What comes after the state has been read may rely on what holds of it. -/
theorem Keeps.get_bind {f : σ → Attempt ε σ β} (h : ∀ s, P s → P ((f s).run.run s).2) :
    Keeps P (get >>= f) := by
  intro s hs
  rw [run_bind, run_get]
  exact h s hs

theorem Keeps.tryCatch {x : Attempt ε σ α} {f : ε → Attempt ε σ α} (hx : Keeps P x)
    (hf : ∀ e, Keeps P (f e)) : Keeps P (tryCatch x f) := by
  intro s hs
  have hkept := hx s hs
  rw [run_tryCatch]
  rcases hrun : x.run.run s with ⟨e | a, s'⟩
  · rw [hrun] at hkept
    exact hf e s' hkept
  · rwa [hrun] at hkept

/-- The second attempt, made on what the view shows of a state, gives what the first gives on that
state, and leaves what the view shows of the state that the first leaves. -/
def Mirrors {ρ : Type} (view : σ → ρ) (x : Attempt ε σ α) (x' : Attempt ε ρ α) : Prop :=
  ∀ s, x'.run.run (view s) = ((x.run.run s).1, view (x.run.run s).2)

section

variable {ρ : Type} {view : σ → ρ}

theorem Mirrors.pure (a : α) :
    Mirrors view (pure a : Attempt ε σ α) (pure a : Attempt ε ρ α) := fun _ => rfl

theorem Mirrors.throw (e : ε) :
    Mirrors view (throw e : Attempt ε σ α) (throw e : Attempt ε ρ α) := fun _ => rfl

theorem Mirrors.ofExcept (result : Except ε α) :
    Mirrors view (ofExcept result : Attempt ε σ α) (ofExcept result : Attempt ε ρ α) :=
  fun _ => rfl

theorem Mirrors.modify {f : σ → σ} {f' : ρ → ρ} (h : ∀ s, f' (view s) = view (f s)) :
    Mirrors view (modify f : Attempt ε σ PUnit) (modify f' : Attempt ε ρ PUnit) := by
  intro s
  rw [run_modify, run_modify, h]

theorem Mirrors.bind {x : Attempt ε σ α} {x' : Attempt ε ρ α} {y : α → Attempt ε σ β}
    {y' : α → Attempt ε ρ β} (hx : Mirrors view x x') (hy : ∀ a, Mirrors view (y a) (y' a)) :
    Mirrors view (x >>= y) (x' >>= y') := by
  intro s
  rw [run_bind, run_bind, hx s]
  rcases x.run.run s with ⟨_ | a, s'⟩
  · rfl
  · exact hy a s'

/-- Reading the state is mirrored if what is done with it is. -/
theorem Mirrors.get_bind {y : σ → Attempt ε σ β} {y' : ρ → Attempt ε ρ β}
    (h : ∀ s, (y' (view s)).run.run (view s) = (((y s).run.run s).1, view ((y s).run.run s).2)) :
    Mirrors view (get >>= y) (get >>= y') := by
  intro s
  rw [run_bind, run_bind, run_get, run_get]
  exact h s

theorem Mirrors.tryCatch {x : Attempt ε σ α} {x' : Attempt ε ρ α} {y : ε → Attempt ε σ α}
    {y' : ε → Attempt ε ρ α} (hx : Mirrors view x x') (hy : ∀ e, Mirrors view (y e) (y' e)) :
    Mirrors view (tryCatch x y) (tryCatch x' y') := by
  intro s
  rw [run_tryCatch, run_tryCatch, hx s]
  rcases x.run.run s with ⟨e | _, s'⟩
  · exact hy e s'
  · rfl

end

/-- The attempt neither sees whether `f` has changed the state, nor touches what `f` does. -/
def Blind (f : σ → σ) (x : Attempt ε σ α) : Prop :=
  ∀ s, x.run.run (f s) = ((x.run.run s).1, f (x.run.run s).2)

variable {f : σ → σ}

theorem Blind.throw (e : ε) : Blind f (throw e : Attempt ε σ α) := fun _ => rfl

theorem Blind.bind {x : Attempt ε σ α} {y : α → Attempt ε σ β} (hx : Blind f x)
    (hy : ∀ a, Blind f (y a)) : Blind f (x >>= y) :=
  Mirrors.bind hx hy

theorem Blind.tryCatch {x : Attempt ε σ α} {y : ε → Attempt ε σ α} (hx : Blind f x)
    (hy : ∀ e, Blind f (y e)) : Blind f (tryCatch x y) :=
  Mirrors.tryCatch hx hy

/-- On related states, the attempts have the same result and leave related states. -/
def Relates {ρ : Type} (R : σ → ρ → Prop) (x : Attempt ε σ α) (x' : Attempt ε ρ α) : Prop :=
  ∀ s s', R s s' → (x.run.run s).1 = (x'.run.run s').1 ∧ R (x.run.run s).2 (x'.run.run s').2

section

variable {ρ : Type} {R : σ → ρ → Prop}

theorem Relates.pure (a : α) : Relates R (pure a : Attempt ε σ α) (pure a : Attempt ε ρ α) :=
  fun _ _ h => ⟨rfl, h⟩

theorem Relates.throw (e : ε) : Relates R (throw e : Attempt ε σ α) (throw e : Attempt ε ρ α) :=
  fun _ _ h => ⟨rfl, h⟩

theorem Relates.ofExcept (result : Except ε α) :
    Relates R (ofExcept result : Attempt ε σ α) (ofExcept result : Attempt ε ρ α) :=
  fun _ _ h => ⟨rfl, h⟩

theorem Relates.modify {f : σ → σ} {f' : ρ → ρ} (h : ∀ s s', R s s' → R (f s) (f' s')) :
    Relates R (modify f : Attempt ε σ PUnit) (modify f' : Attempt ε ρ PUnit) :=
  fun s s' hs => ⟨rfl, h s s' hs⟩

theorem Relates.bind {x : Attempt ε σ α} {x' : Attempt ε ρ α} {y : α → Attempt ε σ β}
    {y' : α → Attempt ε ρ β} (hx : Relates R x x') (hy : ∀ a, Relates R (y a) (y' a)) :
    Relates R (x >>= y) (x' >>= y') := by
  intro s s' hs
  obtain ⟨hresult, hafter⟩ := hx s s' hs
  rw [run_bind, run_bind]
  rcases hrun : x.run.run s with ⟨result, t⟩
  rcases hrun' : x'.run.run s' with ⟨result', t'⟩
  rw [hrun, hrun'] at hresult hafter
  obtain rfl : result = result' := hresult
  cases result with
  | error e => exact ⟨rfl, hafter⟩
  | ok a => exact hy a t t' hafter

/-- What comes after related states have been read may rely on what relates them. -/
theorem Relates.get_bind {y : σ → Attempt ε σ β} {y' : ρ → Attempt ε ρ β}
    (h : ∀ s s', R s s' → ((y s).run.run s).1 = ((y' s').run.run s').1 ∧
      R ((y s).run.run s).2 ((y' s').run.run s').2) :
    Relates R (get >>= y) (get >>= y') := by
  intro s s' hs
  rw [run_bind, run_bind, run_get, run_get]
  exact h s s' hs

theorem Relates.tryCatch {x : Attempt ε σ α} {x' : Attempt ε ρ α} {y : ε → Attempt ε σ α}
    {y' : ε → Attempt ε ρ α} (hx : Relates R x x') (hy : ∀ e, Relates R (y e) (y' e)) :
    Relates R (tryCatch x y) (tryCatch x' y') := by
  intro s s' hs
  obtain ⟨hresult, hafter⟩ := hx s s' hs
  rw [run_tryCatch, run_tryCatch]
  rcases hrun : x.run.run s with ⟨result, t⟩
  rcases hrun' : x'.run.run s' with ⟨result', t'⟩
  rw [hrun, hrun'] at hresult hafter
  obtain rfl : result = result' := hresult
  cases result with
  | error e => exact hy e t t' hafter
  | ok a => exact ⟨rfl, hafter⟩

end

end Multiplayer.Attempt
