import Multiplayer.Routing.Registry

/-!
# The nesting of middleware

What a table does with a frame is said in terms of the registrations alone: the handlers of the
code run in order, inside the middleware of the code.  Wider middleware is further outside, and of
equally wide middleware the one registered first.

* `leadingBits_eq_iff`: cleared codes are compared instead of leading bits.
* `byLevel`: a stable sort, which is how the layers of a code stand.
* `Registry.Holds`: what every successful registration preserves.
* `Registry.dispatch?_build` is the result.
-/

namespace Multiplayer

/-! ## Leading bits -/

/-- Two codes agree in their `level` leading bits. -/
def SameLeading (level : Nat) (a b : UInt16) : Prop :=
  ∀ i < level, a.toNat.testBit (15 - i) = b.toNat.testBit (15 - i)

instance (level : Nat) (a b : UInt16) : Decidable (SameLeading level a b) :=
  inferInstanceAs (Decidable (∀ i < level, a.toNat.testBit (15 - i) = b.toNat.testBit (15 - i)))

theorem toNat_leadingBits (level : Nat) (code : UInt16) :
    (leadingBits level code).toNat =
      code.toNat / Nat.pow 2 (maxLevel - level) * Nat.pow 2 (maxLevel - level) := by
  have hle := Nat.div_mul_le_self code.toNat (Nat.pow 2 (maxLevel - level))
  have hlt := code.toNat_lt
  exact UInt16.toNat_ofNat_of_lt' (Nat.lt_of_le_of_lt hle hlt)

theorem leadingBits_eq_iff_div {level : Nat} {a b : UInt16} :
    leadingBits level a = leadingBits level b ↔
      a.toNat / Nat.pow 2 (maxLevel - level) = b.toNat / Nat.pow 2 (maxLevel - level) := by
  rw [← UInt16.toNat_inj, toNat_leadingBits, toNat_leadingBits]
  exact Nat.mul_left_inj (Nat.pos_iff_ne_zero.1 (Nat.two_pow_pos _))

-- The bits above the sixteenth are zero on both sides.
theorem leadingBits_eq_iff {level : Nat} (h : level ≤ maxLevel) {a b : UInt16} :
    leadingBits level a = leadingBits level b ↔ SameLeading level a b := by
  rw [leadingBits_eq_iff_div, Nat.pow_eq]
  constructor
  · intro heq i hi
    have hbit := congrArg (Nat.testBit · (level - 1 - i)) heq
    simp only [Nat.testBit_div_two_pow] at hbit
    have hindex : level - 1 - i + (maxLevel - level) = 15 - i := by
      unfold maxLevel at h ⊢
      omega
    rwa [hindex] at hbit
  · intro hsame
    refine Nat.eq_of_testBit_eq fun i => ?_
    rw [Nat.testBit_div_two_pow, Nat.testBit_div_two_pow]
    by_cases hi : i < level
    · have hindex : i + (maxLevel - level) = 15 - (level - 1 - i) := by
        unfold maxLevel at h ⊢
        omega
      rw [hindex]
      exact hsame _ (by omega)
    · have hhigh (code : UInt16) : code.toNat.testBit (i + (maxLevel - level)) = false := by
        refine Nat.testBit_lt_two_pow (Nat.lt_of_lt_of_le code.toNat_lt ?_)
        refine Nat.pow_le_pow_right (by omega) ?_
        unfold maxLevel at h ⊢
        omega
      rw [hhigh a, hhigh b]

/-! ## Sorting by level -/

section ByLevel

variable {α : Type}

/-- The entries with a level below `n`, by level, those of one level in their order. -/
def byLevel (n : Nat) (entries : List (Nat × α)) : List (Nat × α) :=
  (List.range n).flatMap fun level => entries.filter (·.1 = level)

theorem byLevel_succ (n : Nat) (entries : List (Nat × α)) :
    byLevel (n + 1) entries = byLevel n entries ++ entries.filter (·.1 = n) := by
  simp [byLevel, List.range_succ]

theorem level_lt_of_mem_byLevel {n : Nat} {entries : List (Nat × α)} {entry : Nat × α}
    (h : entry ∈ byLevel n entries) : entry.1 < n := by
  obtain ⟨level, hlevel, hentry⟩ := List.mem_flatMap.1 h
  have heq : entry.1 = level := of_decide_eq_true (List.mem_filter.1 hentry).2
  have hlt := List.mem_range.1 hlevel
  omega

theorem byLevel_perm_filter (n : Nat) (entries : List (Nat × α)) :
    (byLevel n entries).Perm (entries.filter (·.1 < n)) := by
  induction n with
  | zero => simp [byLevel]
  | succ n ih =>
    rw [byLevel_succ]
    have hsplit := List.filter_append_perm (fun entry => decide (entry.1 < n))
      (entries.filter (·.1 < n + 1))
    have hbelow : (entries.filter (·.1 < n + 1)).filter (·.1 < n) = entries.filter (·.1 < n) := by
      rw [List.filter_filter]
      refine List.filter_congr fun entry _ => ?_
      rw [← Bool.decide_and]
      exact decide_eq_decide.2 (by omega)
    have hat : (entries.filter (·.1 < n + 1)).filter (fun entry => !decide (entry.1 < n)) =
        entries.filter (·.1 = n) := by
      rw [List.filter_filter]
      refine List.filter_congr fun entry _ => ?_
      rw [← decide_not, ← Bool.decide_and]
      exact decide_eq_decide.2 (by omega)
    rw [hbelow, hat] at hsplit
    exact (ih.append_right _).trans hsplit

theorem byLevel_perm {n : Nat} {entries : List (Nat × α)} (h : ∀ entry ∈ entries, entry.1 < n) :
    (byLevel n entries).Perm entries := by
  have hall : entries.filter (·.1 < n) = entries :=
    List.filter_eq_self.2 fun entry hentry => decide_eq_true (h entry hentry)
  have hperm := byLevel_perm_filter n entries
  rwa [hall] at hperm

theorem byLevel_sorted (n : Nat) (entries : List (Nat × α)) :
    (byLevel n entries).Pairwise fun a b => a.1 ≤ b.1 := by
  induction n with
  | zero => exact .nil
  | succ n ih =>
    have hlevel {entry : Nat × α} (hentry : entry ∈ entries.filter (·.1 = n)) : entry.1 = n :=
      of_decide_eq_true (List.mem_filter.1 hentry).2
    rw [byLevel_succ, List.pairwise_append]
    refine ⟨ih, ?_, ?_⟩
    · refine List.pairwise_of_forall_mem_list fun a ha b hb => ?_
      exact Nat.le_of_eq ((hlevel ha).trans (hlevel hb).symm)
    · intro a ha b hb
      rw [hlevel hb]
      exact Nat.le_of_lt (level_lt_of_mem_byLevel ha)

theorem filter_byLevel_of_lt {n level : Nat} (h : level < n) (entries : List (Nat × α)) :
    (byLevel n entries).filter (·.1 = level) = entries.filter (·.1 = level) := by
  induction n with
  | zero => omega
  | succ n ih =>
    rw [byLevel_succ, List.filter_append, List.filter_filter]
    by_cases hlevel : level = n
    · have hbelow : (byLevel n entries).filter (·.1 = level) = [] := by
        refine List.filter_eq_nil_iff.2 fun entry hentry => ?_
        have := level_lt_of_mem_byLevel hentry
        exact mt of_decide_eq_true (by omega)
      rw [hbelow, List.nil_append, hlevel]
      simp only [Bool.and_self]
    · have hat : entries.filter (fun entry => decide (entry.1 = level) && decide (entry.1 = n)) =
          [] := by
        refine List.filter_eq_nil_iff.2 fun entry _ => ?_
        rw [← Bool.decide_and]
        exact mt of_decide_eq_true (by omega)
      rw [hat, List.append_nil, ih (by omega)]

theorem filter_byLevel {n : Nat} {entries : List (Nat × α)} (h : ∀ entry ∈ entries, entry.1 < n)
    (level : Nat) :
    (byLevel n entries).filter (·.1 = level) = entries.filter (·.1 = level) := by
  by_cases hlevel : level < n
  · exact filter_byLevel_of_lt hlevel entries
  · have hnone (list : List (Nat × α)) (hlist : ∀ entry ∈ list, entry.1 < n) :
        list.filter (·.1 = level) = [] := by
      refine List.filter_eq_nil_iff.2 fun entry hentry => ?_
      have := hlist entry hentry
      exact mt of_decide_eq_true (by omega)
    rw [hnone _ fun _ => level_lt_of_mem_byLevel, hnone _ h]

end ByLevel

/-! ## Registrations -/

/-- One registration. -/
inductive Registration (σ : Type) where
  | handler (code : UInt16) (handler : Handler σ)
  | builtin (code : UInt16) (handler : Handler σ)
  | middleware (code : UInt16) (level : UInt8) (middleware : Middleware σ)

namespace Registration

variable {σ : Type}

/-- The handler, if it is one for a code. -/
def handler? (code : UInt16) : Registration σ → Option (Handler σ)
  | handler registered h => if registered = code then some h else none
  | _ => none

/-- The middleware and its level, if it is some for a code. -/
def layer? (code : UInt16) : Registration σ → Option (Nat × Middleware σ)
  | middleware registered level m =>
    if SameLeading level.toNat registered code then some (level.toNat, m) else none
  | _ => none

/-- The middleware and its scope, if it is some. -/
def scope? : Registration σ → Option (Scope × Middleware σ)
  | middleware registered level m => some (.containing level.toNat registered, m)
  | _ => none

/-- The registration is not refused for its level. -/
def Leveled : Registration σ → Prop
  | middleware _ level _ => level.toNat ≤ maxLevel
  | _ => True

theorem filterMap_handler?_eq_nil_iff {code : UInt16} {registrations : List (Registration σ)} :
    registrations.filterMap (handler? code) = [] ↔ ∀ h, handler code h ∉ registrations := by
  rw [List.filterMap_eq_nil_iff]
  constructor
  · intro hnone h hmem
    have := hnone _ hmem
    simp [handler?] at this
  · intro hnone registration hmem
    cases registration with
    | handler registered h =>
      refine if_neg fun hcode => ?_
      exact hnone h (hcode ▸ hmem)
    | builtin _ _ => rfl
    | middleware _ _ _ => rfl

end Registration

namespace Registry

variable {σ : Type}

/-- Makes one registration. -/
def register (r : Registry σ) : Registration σ → Except RoutingError (Registry σ)
  | .handler code h => r.addHandler code h
  | .builtin code h => r.addBuiltin code h
  | .middleware code level m => r.addMiddleware code level m

theorem getElem?_addTo (handlers : HandlerMap σ) (code other : UInt16) (handler : Handler σ) :
    (addTo handlers code handler)[other]? =
      if code = other then some (handlers[code]?.getD [] ++ [handler]) else handlers[other]? := by
  simp only [addTo, Std.ExtTreeMap.getElem?_alter, Std.compare_eq_iff_eq]

/-! ## What is registered -/

/-- What every registration preserves holds after all of them. -/
theorem foldlM_induction {P : Registry σ → List (Registration σ) → Prop}
    (step : ∀ {r r' : Registry σ} {before : List (Registration σ)} {registration : Registration σ},
      P r before → r.register registration = .ok r' → P r' (before ++ [registration]))
    {r r' : Registry σ} {before registrations : List (Registration σ)} (h : P r before)
    (hok : registrations.foldlM Registry.register r = .ok r') : P r' (before ++ registrations) := by
  induction registrations generalizing r before with
  | nil =>
    cases hok
    rwa [List.append_nil]
  | cons registration registrations ih =>
    rw [List.foldlM_cons] at hok
    cases hnext : r.register registration with
    | error e =>
      rw [hnext] at hok
      cases hok
    | ok next =>
      rw [hnext] at hok
      have hall := ih (step h hnext) hok
      rwa [List.append_assoc, List.singleton_append] at hall

/-- What a registry has after some successful registrations. -/
structure Holds (r : Registry σ) (registrations : List (Registration σ)) : Prop where
  handlers : ∀ code : UInt16,
    r.handlers[code]?.getD [] = registrations.filterMap (Registration.handler? code)
  nonempty : ∀ code : UInt16, r.handlers[code]? ≠ some []
  middleware : r.middleware = registrations.filterMap Registration.scope?
  leveled : ∀ registration ∈ registrations, registration.Leveled

theorem filterMap_singleton {α β : Type} (f : α → Option β) (a : α) :
    [a].filterMap f = (f a).toList := by
  cases h : f a <;> simp [h]

namespace Holds

theorem empty : (Registry.empty : Registry σ).Holds [] where
  handlers code := by simp [Registry.empty]
  nonempty code := by simp [Registry.empty]
  middleware := rfl
  leveled registration hmem := by simp at hmem

/-- One registration adds what it gives to each code, and its middleware. -/
theorem step {r r' : Registry σ} {registrations : List (Registration σ)}
    (h : r.Holds registrations) {registration : Registration σ}
    (hhandlers : ∀ code : UInt16, r'.handlers[code]?.getD [] =
      r.handlers[code]?.getD [] ++ (registration.handler? code).toList)
    (hnonempty : ∀ code : UInt16, r'.handlers[code]? ≠ some [])
    (hmiddleware : r'.middleware = r.middleware ++ registration.scope?.toList)
    (hleveled : registration.Leveled) : r'.Holds (registrations ++ [registration]) where
  handlers code := by
    rw [hhandlers, h.handlers, List.filterMap_append, filterMap_singleton]
  nonempty := hnonempty
  middleware := by
    rw [hmiddleware, h.middleware, List.filterMap_append, filterMap_singleton]
  leveled other hmem := by
    rcases List.mem_append.1 hmem with hmem | hmem
    · exact h.leveled other hmem
    · obtain rfl := List.mem_singleton.1 hmem
      exact hleveled

theorem register {r r' : Registry σ} {registrations : List (Registration σ)}
    (h : r.Holds registrations) {registration : Registration σ}
    (hok : r.register registration = .ok r') : r'.Holds (registrations ++ [registration]) := by
  cases registration with
  | handler code handler =>
    simp only [Registry.register, addHandler] at hok
    split at hok
    · cases hok
    · cases hok
      refine h.step (fun other => ?_) (fun other => ?_) (List.append_nil _).symm trivial
      · rw [getElem?_addTo]
        by_cases hcode : code = other
        · simp [Registration.handler?, hcode]
        · simp [Registration.handler?, hcode]
      · rw [getElem?_addTo]
        split
        · simp
        · exact h.nonempty other
  | builtin code handler =>
    simp only [Registry.register, addBuiltin] at hok
    split at hok
    · cases hok
    · cases hok
      exact h.step (fun _ => (List.append_nil _).symm) h.nonempty (List.append_nil _).symm trivial
  | middleware code level m =>
    simp only [Registry.register, addMiddleware] at hok
    split at hok
    · cases hok
    · split at hok
      · cases hok
      · rename_i hlevel
        cases hok
        exact h.step (fun _ => (List.append_nil _).symm) h.nonempty rfl (Nat.le_of_not_lt hlevel)

theorem getElem?_handlers {r : Registry σ} {registrations : List (Registration σ)}
    (h : r.Holds registrations) (code : UInt16) :
    r.handlers[code]? = if registrations.filterMap (Registration.handler? code) = [] then none
      else some (registrations.filterMap (Registration.handler? code)) := by
  have hnonempty := h.nonempty code
  rw [← h.handlers code]
  cases hstored : r.handlers[code]? with
  | none => rfl
  | some handlers =>
    rw [if_neg]
    · rfl
    · rintro rfl
      exact hnonempty hstored

theorem foldlM {r r' : Registry σ} {before registrations : List (Registration σ)}
    (h : r.Holds before) (hok : registrations.foldlM Registry.register r = .ok r') :
    r'.Holds (before ++ registrations) :=
  foldlM_induction (fun hbefore hnext => hbefore.register hnext) h hok

end Holds

/-! ## What is built -/

theorem fanOut_eq_runAll (handlers : List (Handler σ)) : fanOut handlers = runAll handlers := by
  match handlers with
  | [] => rfl
  | [only] =>
    funext frame s
    change (only frame).run.run s = _
    unfold runAll
    rcases (only frame).run.run s with ⟨e | ⟨⟩, s'⟩ <;> rfl
  | _ :: _ :: _ => rfl

theorem wrapFrom_eq_foldr (r : Registry σ) (code : UInt16) (level : Nat) (handler : Handler σ) :
    r.wrapFrom code level handler =
      ((List.range (level + 1)).flatMap fun level => r.layersAt (.containing level code)).foldr
        (fun layer inner => layer inner) handler := by
  induction level generalizing handler with
  | zero => simp [wrapFrom, wrapAt]
  | succ level ih =>
    rw [wrapFrom, ih, List.range_succ (n := level + 1), List.flatMap_append, List.foldr_append]
    simp [wrapAt]

theorem wrapFrom_of_plain {r : Registry σ} (h : r.middleware = []) (code : UInt16) (level : Nat)
    (handler : Handler σ) : r.wrapFrom code level handler = handler := by
  have hnone : ((List.range (level + 1)).flatMap fun level =>
      r.layersAt (.containing level code)) = [] := by
    simp [layersAt, h, List.flatMap_eq_nil_iff]
  rw [wrapFrom_eq_foldr, hnone]
  rfl

theorem containing_eq_iff {level : Nat} {registered : UInt8} (h : registered.toNat ≤ maxLevel)
    {a b : UInt16} :
    Scope.containing registered.toNat a = .containing level b ↔
      SameLeading registered.toNat a b ∧ registered.toNat = level := by
  rw [← leadingBits_eq_iff h, Scope.containing, Scope.containing, Scope.mk.injEq]
  constructor
  · rintro ⟨rfl, hbits⟩
    exact ⟨hbits, rfl⟩
  · rintro ⟨hbits, rfl⟩
    exact ⟨rfl, hbits⟩

theorem filter_scope?_eq {registrations : List (Registration σ)}
    (h : ∀ registration ∈ registrations, registration.Leveled) (code : UInt16) (level : Nat) :
    ((registrations.filterMap Registration.scope?).filter
        (·.1 = .containing level code)).map (·.2) =
      ((registrations.filterMap (Registration.layer? code)).filter (·.1 = level)).map (·.2) := by
  induction registrations with
  | nil => rfl
  | cons registration registrations ih =>
    have ih := ih fun other hmem => h other (List.mem_cons_of_mem registration hmem)
    cases registration with
    | handler _ _ => exact ih
    | builtin _ _ => exact ih
    | middleware registered registeredLevel m =>
      have hscope : Scope.containing registeredLevel.toNat registered = .containing level code ↔
          SameLeading registeredLevel.toNat registered code ∧ registeredLevel.toNat = level :=
        containing_eq_iff (h _ List.mem_cons_self)
      simp only [List.filterMap_cons, Registration.scope?, Registration.layer?, List.filter_cons,
        hscope]
      by_cases hsame : SameLeading registeredLevel.toNat registered code
      · by_cases hlevel : registeredLevel.toNat = level
        · subst hlevel
          simp [hsame, ih]
        · simp [hsame, hlevel, ih]
      · simp [hsame, ih]

theorem Holds.layersAt_eq {r : Registry σ} {registrations : List (Registration σ)}
    (h : r.Holds registrations) (code : UInt16) (level : Nat) :
    r.layersAt (.containing level code) =
      ((registrations.filterMap (Registration.layer? code)).filter (·.1 = level)).map (·.2) := by
  rw [layersAt, h.middleware]
  exact filter_scope?_eq h.leveled code level

theorem Holds.level_lt {r : Registry σ} {registrations : List (Registration σ)}
    (h : r.Holds registrations) {code : UInt16} {entry : Nat × Middleware σ}
    (hentry : entry ∈ registrations.filterMap (Registration.layer? code)) :
    entry.1 < maxLevel + 1 := by
  obtain ⟨registration, hmem, hlayer⟩ := List.mem_filterMap.1 hentry
  have hleveled := h.leveled registration hmem
  cases registration with
  | handler _ _ => simp [Registration.layer?] at hlayer
  | builtin _ _ => simp [Registration.layer?] at hlayer
  | middleware registered level m =>
    rw [Registration.layer?, Option.ite_none_right_eq_some] at hlayer
    obtain ⟨-, hlayer⟩ := hlayer
    rw [← Option.some.inj hlayer]
    exact Nat.lt_succ_of_le hleveled

/-- The layers of a code, from the outermost inwards. -/
theorem Holds.wrapFrom_eq {r : Registry σ} {registrations : List (Registration σ)}
    (h : r.Holds registrations) (code : UInt16) (handler : Handler σ) :
    r.wrapFrom code maxLevel handler =
      (byLevel (maxLevel + 1) (registrations.filterMap (Registration.layer? code))).foldr
        (fun layer inner => layer.2 inner) handler := by
  rw [wrapFrom_eq_foldr]
  simp only [h.layersAt_eq]
  rw [← List.map_flatMap, List.foldr_map]
  rfl

theorem getElem?_table_main (r : Registry σ) (code : UInt16) :
    r.table.main[code]? =
      r.handlers[code]?.map fun handlers => r.wrapFrom code maxLevel (fanOut handlers) :=
  Std.ExtTreeMap.getElem?_map

/-- **Middleware nests around the handlers of its codes.**  A frame is dispatched if and only if its
code has a handler.  The handlers run in the order of registration, inside exactly the middleware of
the code: the lower level outside, and in one level the earlier registration. -/
theorem dispatch?_build {registrations : List (Registration σ)} {r : Registry σ}
    (h : registrations.foldlM register .empty = .ok r) (frame : Frame) :
    (r.build.1.dispatch? frame = none ↔ ∀ h, .handler frame.code h ∉ registrations) ∧
    ((∃ h, .handler frame.code h ∈ registrations) →
      ∃ layers : List (Nat × Middleware σ),
        layers.Perm (registrations.filterMap (Registration.layer? frame.code)) ∧
        layers.Pairwise (fun outer inner => outer.1 ≤ inner.1) ∧
        (∀ level, layers.filter (·.1 = level) =
          (registrations.filterMap (Registration.layer? frame.code)).filter (·.1 = level)) ∧
        r.build.1.dispatch? frame = some (layers.foldr (fun layer inner => layer.2 inner)
          (runAll (registrations.filterMap (Registration.handler? frame.code))) frame)) := by
  have hholds : r.Holds registrations := Holds.empty.foldlM h
  have hstored := hholds.getElem?_handlers frame.code
  have hfound : r.build.1.dispatch? frame = (r.handlers[frame.code]?).map fun handlers =>
      r.wrapFrom frame.code maxLevel (runAll handlers) frame := by
    change (r.table.main[frame.code]?).map (· frame) = _
    rw [getElem?_table_main, Option.map_map]
    simp only [Function.comp_def, fanOut_eq_runAll]
  constructor
  · rw [hfound, hstored, ← Registration.filterMap_handler?_eq_nil_iff]
    simp
  · rintro ⟨handler, hhandler⟩
    have hsome : registrations.filterMap (Registration.handler? frame.code) ≠ [] := fun hnil =>
      Registration.filterMap_handler?_eq_nil_iff.1 hnil handler hhandler
    have hlevels : ∀ entry ∈ registrations.filterMap (Registration.layer? frame.code),
        entry.1 < maxLevel + 1 := fun entry hentry => hholds.level_lt hentry
    refine ⟨byLevel (maxLevel + 1) (registrations.filterMap (Registration.layer? frame.code)),
      byLevel_perm hlevels, byLevel_sorted _ _, filter_byLevel hlevels, ?_⟩
    rw [hfound, hstored, if_neg hsome, Option.map_some, hholds.wrapFrom_eq]

/-- Middleware that leaves a mark before it goes on. -/
def marking (mark : Nat) : Middleware (List Nat) := fun inner frame => do
  modify (· ++ [mark])
  inner frame

/-- Two handlers of one code, with middleware of it and of others between. -/
def marked : List (Registration (List Nat)) :=
  [.middleware 0x0102 16 (marking 16), .handler 0x0102 fun _ => modify (· ++ [100]),
    .middleware 0x0203 4 (marking 4), .middleware 0xffff 0 (marking 0),
    .middleware 0x0102 16 (marking 17), .middleware 0x0202 8 (marking 8),
    .handler 0x0102 fun _ => modify (· ++ [101])]

theorem dispatch?_build_marked :
    ∃ r, marked.foldlM register .empty = .ok r ∧
      (∃ h, .handler 0x0102 h ∈ marked) ∧
      ∃ layers : List (Nat × Middleware (List Nat)),
        layers.Perm (marked.filterMap (Registration.layer? 0x0102)) ∧
        r.build.1.dispatch? ⟨0x09, 0x0102, []⟩ =
          some (layers.foldr (fun layer inner => layer.2 inner)
            (runAll (marked.filterMap (Registration.handler? 0x0102))) ⟨0x09, 0x0102, []⟩) := by
  have hhandler : ∃ h, .handler 0x0102 h ∈ marked :=
    ⟨_, List.mem_cons_of_mem _ List.mem_cons_self⟩
  obtain ⟨r, hr⟩ : ∃ r, marked.foldlM register .empty = .ok r := ⟨_, rfl⟩
  obtain ⟨layers, hperm, -, -, hdispatch⟩ :=
    (dispatch?_build hr ⟨0x09, 0x0102, []⟩).2 hhandler
  exact ⟨r, hr, hhandler, layers, hperm, hdispatch⟩

example : (marked.foldlM register .empty).toOption.bind (fun r =>
    (r.build.1.dispatch? ⟨0x09, 0x0102, []⟩).map fun action => (action.run.run []).2) =
      some [0, 4, 16, 17, 100, 101] := by
  decide

end Registry

end Multiplayer
