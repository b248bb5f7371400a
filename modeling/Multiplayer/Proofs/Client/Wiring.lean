import Multiplayer.Proofs.Client.Phases
import Multiplayer.Proofs.Client.Sealing

/-!
# The tables of a connected client

However a client has become connected, it has a table.  The built-in handlers in it are the
reactions of the client, each under the code of its event, and there are no others.

* `Reaction.getElem?_addAll_empty`: what is built in under any code.
* `kept_of_not_registration`, `Reachable.tabled` and `Reachable.isSome_table`: what calls keep.
* `Underway` is a client that is connected or in the middle of a tick; `Underway.wired` says that
  it has its table.
-/

namespace Multiplayer

variable {τ δ α : Type}

namespace Reaction

open Registry

/-- Nothing is added under a code that no entry has. -/
theorem getElem?_addAll_of_ne {σ : Type} {entries : List (Event × Handler σ)} {code : UInt16}
    (h : ∀ entry ∈ entries, entry.1.code ≠ code) (handlers : HandlerMap σ) :
    (addAll entries handlers)[code]? = handlers[code]? := by
  induction entries generalizing handlers with
  | nil => rfl
  | cons entry entries ih =>
    have hlater := ih (fun other hother => h other (List.mem_cons_of_mem _ hother))
    exact (hlater _).trans ((getElem?_addTo ..).trans (if_neg (h entry List.mem_cons_self)))

theorem getElem?_addAll_empty {σ : Type} {entries : List (Event × Handler σ)}
    (hnodup : (entries.map Prod.fst).Nodup) (code : UInt16) :
    (addAll entries ∅)[code]? = (entries.find? (·.1.code = code)).map fun entry => [entry.2] := by
  cases hfind : entries.find? (·.1.code = code) with
  | none =>
    have hne : ∀ entry ∈ entries, entry.1.code ≠ code := by
      simpa using List.find?_eq_none.1 hfind
    rw [getElem?_addAll_of_ne hne]
    exact Std.ExtTreeMap.getElem?_empty
  | some entry =>
    obtain rfl : entry.1.code = code := by simpa using List.find?_some hfind
    exact getElem?_addAll hnodup (List.mem_of_find?_eq_some hfind) Std.ExtTreeMap.getElem?_empty

end Reaction

/-- The built-in handlers are the reactions. -/
theorem Tabled.builtin? {registry : Registry (HandlerState α)} {subscriptions : Subscriptions α}
    {table : Table (HandlerState α)} (h : Tabled registry subscriptions (some table))
    (code : UInt16) :
    table.builtin[code]? =
      ((Reaction.all subscriptions).find? (·.1.code = code)).map Prod.snd := by
  obtain ⟨-, rfl, hbuiltins⟩ := h.built table rfl
  simp only [Registry.table, Std.ExtTreeMap.getElem?_map, hbuiltins,
    Reaction.getElem?_addAll_empty (Reaction.nodup_all subscriptions), Option.map_map]
  rfl

namespace Client

open Attempt (Keeps)

variable [Transport τ] [Directory δ]

/-! ## What calls keep -/

theorem Reachable.tabled {c : Client τ δ α} (h : c.Reachable) : c.Registered Tabled := by
  induction h with
  | build => exact tabled_build ..
  | call _ made ih => exact tabled_perform made _ ih
  | shared _ _ _ _ ih => exact ih

/-- Only registrations change what is registered; building the table adds the reactions. -/
theorem kept_of_not_registration {made : Call α} (h : ¬ made.isRegistration) {c : Client τ δ α}
    (htabled : c.Registered Tabled) :
    (made.perform.run.run c).2.registry.handlers = c.registry.handlers ∧
      (made.perform.run.run c).2.registry.middleware = c.registry.middleware ∧
      (made.perform.run.run c).2.subscriptions = c.subscriptions := by
  let P : Registry (HandlerState α) → Subscriptions α → Option (Table (HandlerState α)) → Prop :=
    fun registry subscriptions table? => Tabled registry subscriptions table? ∧
      registry.handlers = c.registry.handlers ∧ registry.middleware = c.registry.middleware ∧
      subscriptions = c.subscriptions
  have hP : Steady (Registered P : Client τ δ α → Prop) := steady_registered P
  have hbefore : c.Registered P := ⟨htabled, rfl, rfl, rfl⟩
  have hbuild : Keeps (Registered P) (buildTable : Operation τ δ α Unit) := by
    rintro c' ⟨htabled, hhandlers, hmiddleware, hsubscriptions⟩
    obtain ⟨c'', hrun, hafter, -, hhandlers', hmiddleware'⟩ := tabled_buildTable htabled
    obtain ⟨registry, table, rfl⟩ := eq_of_buildTable hrun
    rw [hrun]
    exact ⟨hafter, hhandlers'.trans hhandlers, hmiddleware'.trans hmiddleware, hsubscriptions⟩
  have hafter : (made.perform.run.run c).2.Registered P := by
    cases made with
    | start now => exact keeps_start hP hbuild now c hbefore
    | tick now clock => exact registered_tick P now clock c hbefore
    | stop => exact keeps_stop hP c hbefore
    | sendRaw bytes => exact keeps_sendRaw hP bytes c hbefore
    | send packet => exact keeps_send hP packet c hbefore
    | _ => exact absurd rfl h
  exact hafter.2

/-- Once there is a table, it stays. -/
theorem isSome_table_of_connected (made : Call α) {c : Client τ δ α}
    (hconnected : c.session.isConnected) (h : c.table.isSome) :
    (made.perform.run.run c).2.table.isSome := by
  let P : Registry (HandlerState α) → Subscriptions α → Option (Table (HandlerState α)) → Prop :=
    fun _ _ table? => table?.isSome
  have hP : Steady (Registered P : Client τ δ α → Prop) := steady_registered P
  by_cases hregistration : made.isRegistration
  · have hregisters := registers_perform hregistration c
    generalize made.perform.run.run c = run at hregisters ⊢
    cases hregisters <;> exact h
  · cases made with
    | start now =>
      have hidle : c.session.phase ≠ .idle := by
        intro hidle
        simp [Session.isConnected, hidle] at hconnected
      rw [show (Call.start now).perform.run.run c = _ from run_start_of_not_idle hidle now]
      exact h
    | tick now clock => exact registered_tick P now clock c h
    | stop => exact keeps_stop hP c h
    | sendRaw bytes => exact keeps_sendRaw hP bytes c h
    | send packet => exact keeps_send hP packet c h
    | _ => exact absurd rfl hregistration

theorem isSome_table_perform (made : Call α) :
    Keeps (fun c : Client τ δ α => c.session.isConnected → c.table.isSome) made.perform := by
  intro c h
  by_cases hconnected : c.session.isConnected
  · exact fun _ => isSome_table_of_connected made hconnected (h hconnected)
  · have hidles := idles hconnected made
    generalize made.perform.run.run c = run at hidles ⊢
    cases hidles with
    | same | ticked | registered => exact fun hafter => absurd hafter hconnected
    | started now =>
      intro hafter
      by_cases hidle : c.session.phase = .idle
      · rcases hrun : (start now).run.run c with ⟨e | ⟨⟩, c'⟩
        · rw [hrun] at hafter
          have hstarts := starts hidle now
          rw [hrun] at hstarts
          obtain ⟨_, _, _, _, _, _, -, rfl⟩ := hstarts.eq_of_error
          exact absurd hafter hconnected
        · exact (connected_of_start hrun).2
      · rw [run_start_of_not_idle hidle now] at hafter
        exact absurd hafter hconnected

theorem Reachable.isSome_table {c : Client τ δ α} (h : c.Reachable) :
    c.session.isConnected → c.table.isSome := by
  induction h with
  | build => exact fun hconnected => absurd hconnected Bool.false_ne_true
  | call _ made ih => exact isSome_table_perform made _ ih
  | shared _ _ _ _ ih => exact ih

/-! ## In the middle of a tick -/

/-- A client that is connected between two calls, or that a tick has led to from there by reading
and handling events. -/
inductive Underway : Client τ δ α → Prop where
  | connected {c : Client τ δ α} (h : c.Reachable) (hconnected : c.session.isConnected) :
    Underway c
  | read {c : Client τ δ α} (h : Underway c) : Underway c.nextEvent.2
  | handled {c : Client τ δ α} (h : Underway c) (clock : Clock) (event : StreamEvent) :
    Underway (c.handle clock event)

/-- Such a client has a table, with the reactions in it. -/
theorem Underway.wired {c : Client τ δ α} (h : c.Underway) :
    ∃ table, c.table = some table ∧ Tabled c.registry c.subscriptions (some table) := by
  let P : Registry (HandlerState α) → Subscriptions α → Option (Table (HandlerState α)) → Prop :=
    fun registry subscriptions table? =>
      ∃ table, table? = some table ∧ Tabled registry subscriptions (some table)
  change c.Registered P
  induction h with
  | connected h hconnected =>
    obtain ⟨table, htable⟩ := Option.isSome_iff_exists.1 (h.isSome_table hconnected)
    exact ⟨table, htable, htable ▸ h.tabled⟩
  | read _ ih => exact ih
  | handled _ clock event ih => exact registered_handle P clock event ih

end Client

end Multiplayer
