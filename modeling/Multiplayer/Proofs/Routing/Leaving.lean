import Multiplayer.Proofs.Attempt
import Multiplayer.Proofs.Routing.Nesting
import Multiplayer.Routing.Routes

/-!
# Handlers that leave something alone

If nothing that was registered touches what a view shows of the state, then no handler of the table
does: neither running several handlers nor middleware adds anything of its own.  The same goes for
routes.
-/

namespace Multiplayer

variable {σ α β : Type} {view : σ → β}

/-- Whatever a callback is given, it does not change what the view shows. -/
def Leaves (view : σ → β) (callback : Callback σ α) : Prop :=
  ∀ argument shown, (callback argument).Keeps fun s => view s = shown

/-- Middleware makes such a handler from any such handler. -/
def LayerLeaves (view : σ → β) (layer : Middleware σ) : Prop :=
  ∀ inner, Leaves view inner → Leaves view (layer inner)

theorem leaves_runAll {callbacks : List (Callback σ α)}
    (h : ∀ callback ∈ callbacks, Leaves view callback) : Leaves view (runAll callbacks) := by
  intro argument shown
  induction callbacks with
  | nil => exact .pure _
  | cons callback callbacks ih =>
    intro s hs
    have hfirst := h callback List.mem_cons_self argument shown s hs
    exact ih (fun other hother => h other (List.mem_cons_of_mem _ hother)) _ hfirst

theorem leaves_foldr {layers : List (Middleware σ)} (h : ∀ layer ∈ layers, LayerLeaves view layer)
    {handler : Handler σ} (hhandler : Leaves view handler) :
    Leaves view (layers.foldr (fun layer inner => layer inner) handler) := by
  induction layers with
  | nil => exact hhandler
  | cons layer layers ih =>
    have hinner := ih fun other hother => h other (List.mem_cons_of_mem _ hother)
    exact h layer List.mem_cons_self _ hinner

namespace Registry

theorem eq_of_addHandler {r r' : Registry σ} {code : UInt16} {handler : Handler σ}
    (hok : r.addHandler code handler = .ok r') :
    r' = { r with handlers := addTo r.handlers code handler } := by
  unfold addHandler at hok
  split at hok
  · cases hok
  · cases hok
    rfl

theorem eq_of_addMiddleware {r r' : Registry σ} {code : UInt16} {level : UInt8}
    {layer : Middleware σ} (hok : r.addMiddleware code level layer = .ok r') :
    r' = { r with
      middleware := r.middleware ++ [(Scope.containing level.toNat code, layer)] } := by
  unfold addMiddleware at hok
  split at hok
  · cases hok
  split at hok
  · cases hok
  · cases hok
    rfl

/-- Nothing that was registered touches what the view shows. -/
structure LeavesAlone (view : σ → β) (r : Registry σ) : Prop where
  handlers : ∀ {code : UInt16} {handlers}, r.handlers[code]? = some handlers →
    ∀ handler ∈ handlers, Leaves view handler
  middleware : ∀ entry ∈ r.middleware, LayerLeaves view entry.2

namespace LeavesAlone

variable {r r' : Registry σ}

theorem empty : (Registry.empty : Registry σ).LeavesAlone view where
  handlers h := by simp [Registry.empty] at h
  middleware entry hmem := by simp [Registry.empty] at hmem

theorem addHandler (h : r.LeavesAlone view) {code : UInt16} {handler : Handler σ}
    (hhandler : Leaves view handler) (hok : r.addHandler code handler = .ok r') :
    r'.LeavesAlone view := by
  obtain rfl := eq_of_addHandler hok
  refine ⟨?_, h.middleware⟩
  intro other handlers hlookup registered hmem
  rw [getElem?_addTo] at hlookup
  split at hlookup
  · cases hlookup
    rcases List.mem_append.1 hmem with hmem | hmem
    · cases hbefore : r.handlers[code]? with
      | none => simp [hbefore] at hmem
      | some before =>
        rw [hbefore] at hmem
        exact h.handlers hbefore registered hmem
    · rwa [List.mem_singleton.1 hmem]
  · exact h.handlers hlookup registered hmem

theorem addMiddleware (h : r.LeavesAlone view) {code : UInt16} {level : UInt8}
    {layer : Middleware σ} (hlayer : LayerLeaves view layer)
    (hok : r.addMiddleware code level layer = .ok r') : r'.LeavesAlone view := by
  obtain rfl := eq_of_addMiddleware hok
  refine ⟨h.handlers, ?_⟩
  intro entry hmem
  rcases List.mem_append.1 hmem with hmem | hmem
  · exact h.middleware entry hmem
  · rwa [List.mem_singleton.1 hmem]

theorem wrapAt (h : r.LeavesAlone view) (scope : Scope) {handler : Handler σ}
    (hhandler : Leaves view handler) : Leaves view (r.wrapAt scope handler) := by
  refine leaves_foldr (fun layer hmem => ?_) hhandler
  obtain ⟨entry, hentry, rfl⟩ := List.mem_map.1 hmem
  exact h.middleware entry (List.mem_filter.1 hentry).1

theorem wrapFrom (h : r.LeavesAlone view) (code : UInt16) (level : Nat) {handler : Handler σ}
    (hhandler : Leaves view handler) : Leaves view (r.wrapFrom code level handler) := by
  induction level generalizing handler with
  | zero => exact h.wrapAt _ hhandler
  | succ level ih => exact ih (h.wrapAt _ hhandler)

/-- No handler of the table touches what the view shows. -/
theorem table (h : r.LeavesAlone view) {code : UInt16} {handler : Handler σ}
    (hlookup : r.table.main[code]? = some handler) : Leaves view handler := by
  simp only [Registry.table, Std.ExtTreeMap.getElem?_map, Option.map_eq_some_iff] at hlookup
  obtain ⟨handlers, hstored, rfl⟩ := hlookup
  have hall := leaves_runAll (h.handlers hstored)
  refine h.wrapFrom code maxLevel ?_
  rwa [fanOut_eq_runAll]

end LeavesAlone

end Registry

namespace Routes

theorem getElem?_add (routes : Routes σ α) (code other : UInt16) (callback : Callback σ α) :
    (routes.add code callback).table[other]? =
      if code = other then some (routes.table[code]?.getD [] ++ [callback])
      else routes.table[other]? := by
  simp only [add, Std.ExtTreeMap.getElem?_alter, Std.compare_eq_iff_eq]

/-- No callback of the routes touches what the view shows. -/
def LeavesAlone (view : σ → β) (routes : Routes σ α) : Prop :=
  ∀ (code : UInt16) callbacks, routes.table[code]? = some callbacks →
    ∀ callback ∈ callbacks, Leaves view callback

namespace LeavesAlone

variable {routes : Routes σ α}

theorem empty : (Routes.empty : Routes σ α).LeavesAlone view := by
  intro code callbacks hlookup
  simp [Routes.empty] at hlookup

theorem add (h : routes.LeavesAlone view) {code : UInt16} {callback : Callback σ α}
    (hcallback : Leaves view callback) : (routes.add code callback).LeavesAlone view := by
  intro other callbacks hlookup added hmem
  rw [getElem?_add] at hlookup
  split at hlookup
  · obtain rfl := Option.some.inj hlookup
    rcases List.mem_append.1 hmem with hmem | hmem
    · cases hbefore : routes.table[code]? with
      | none => simp [hbefore] at hmem
      | some before =>
        rw [hbefore] at hmem
        exact h code before hbefore added hmem
    · rwa [List.mem_singleton.1 hmem]
  · exact h other callbacks hlookup added hmem

theorem invoke (h : routes.LeavesAlone view) (code : UInt16) (argument : α) (shown : β) :
    ((routes.invoke? code argument).getD (return ())).Keeps fun s => view s = shown := by
  unfold Routes.invoke?
  cases hlookup : routes.table[code]? with
  | none => exact .pure _
  | some callbacks => exact leaves_runAll (h code callbacks hlookup) argument shown

end LeavesAlone

end Routes

end Multiplayer
