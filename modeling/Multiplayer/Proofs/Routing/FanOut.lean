import Mathlib.Data.List.Induction
import Multiplayer.Proofs.Routing.Leaving

/-!
# Callbacks that run in turn

The callbacks of a code run one after another, each on the state that the earlier ones have left and
whether these have failed or not.  The earliest failure is the result.

* `serve` runs callbacks for what they do, and `outcome?` is what each of them comes to.
* `RunsInTurn` says of an action that it runs callbacks in turn; `runsInTurn_iff` says that `runAll`
  is the only one that does.
* `noting` makes a callback that keeps a log; `serve_noting` is the log of callbacks in turn.
* `Serves` is what a table should have for a code: `Routes.serves_invoke`,
  `Registry.serves_dispatchBuiltin` and `Registry.dispatch?_eq`.
* `callbacks_run_in_turn` is the result.
-/

namespace Multiplayer

variable {σ β : Type}

/-! ## What callbacks do in turn -/

/-- The state that callbacks leave if they run one after another, whether they fail or not. -/
def serve (callbacks : List (Callback σ β)) (argument : β) (s : σ) : σ :=
  callbacks.foldl (fun s callback => ((callback argument).run.run s).2) s

/-- What becomes of one of the callbacks, on the state that the earlier ones have left. -/
def outcome? (callbacks : List (Callback σ β)) (argument : β) (s : σ) (i : Nat) :
    Option (Except RoutingError Unit) :=
  callbacks[i]?.map fun callback =>
    ((callback argument).run.run (serve (callbacks.take i) argument s)).1

/-- The action runs the callbacks one after another, all of them, and its result is the earliest
failure. -/
structure RunsInTurn (callbacks : List (Callback σ β)) (argument : β) (action : Action σ Unit) :
    Prop where
  state : ∀ s, (action.run.run s).2 = serve callbacks argument s
  ok_iff : ∀ s, (action.run.run s).1 = .ok () ↔
    ∀ i < callbacks.length, outcome? callbacks argument s i = some (.ok ())
  error_iff : ∀ s e, (action.run.run s).1 = .error e ↔
    ∃ i, outcome? callbacks argument s i = some (.error e) ∧
      ∀ j < i, outcome? callbacks argument s j = some (.ok ())

section RunAll

variable (callbacks : List (Callback σ β)) (argument : β)

theorem state_runAll (s : σ) :
    ((runAll callbacks argument).run.run s).2 = serve callbacks argument s := by
  induction callbacks generalizing s with
  | nil => rfl
  | cons callback callbacks ih => exact ih ((callback argument).run.run s).2

theorem result_runAll_cons (callback : Callback σ β) (s : σ) :
    ((runAll (callback :: callbacks) argument).run.run s).1 =
      match ((callback argument).run.run s).1 with
      | .ok () => ((runAll callbacks argument).run.run ((callback argument).run.run s).2).1
      | .error e => .error e :=
  rfl

theorem outcome?_zero (callback : Callback σ β) (s : σ) :
    outcome? (callback :: callbacks) argument s 0 = some ((callback argument).run.run s).1 :=
  rfl

theorem outcome?_succ (callback : Callback σ β) (s : σ) (i : Nat) :
    outcome? (callback :: callbacks) argument s (i + 1) =
      outcome? callbacks argument ((callback argument).run.run s).2 i := by
  simp only [outcome?, List.getElem?_cons_succ]
  rfl

theorem runAll_ok_iff (s : σ) : ((runAll callbacks argument).run.run s).1 = .ok () ↔
    ∀ i < callbacks.length, outcome? callbacks argument s i = some (.ok ()) := by
  induction callbacks generalizing s with
  | nil => exact ⟨fun _ i hi => absurd hi i.not_lt_zero, fun _ => rfl⟩
  | cons callback callbacks ih =>
    rw [result_runAll_cons, List.length_cons, Nat.forall_lt_succ_left, outcome?_zero]
    simp only [outcome?_succ]
    cases ((callback argument).run.run s).1 with
    | error e => exact ⟨nofun, fun h => nomatch h.1⟩
    | ok => exact (ih _).trans ⟨fun h => ⟨rfl, h⟩, And.right⟩

theorem runAll_error_iff (s : σ) (e : RoutingError) :
    ((runAll callbacks argument).run.run s).1 = .error e ↔
      ∃ i, outcome? callbacks argument s i = some (.error e) ∧
        ∀ j < i, outcome? callbacks argument s j = some (.ok ()) := by
  induction callbacks generalizing s with
  | nil => exact ⟨nofun, fun ⟨_, h, _⟩ => nomatch h⟩
  | cons callback callbacks ih =>
    rw [result_runAll_cons, ← Nat.or_exists_add_one]
    simp only [Nat.forall_lt_succ_left, outcome?_zero, outcome?_succ]
    cases ((callback argument).run.run s).1 with
    | error first =>
      constructor
      · rintro ⟨⟩
        exact .inl ⟨rfl, fun j hj => absurd hj j.not_lt_zero⟩
      · rintro (⟨⟨⟩, -⟩ | ⟨i, -, hfirst, -⟩)
        · rfl
        · cases hfirst
    | ok =>
      constructor
      · intro h
        obtain ⟨i, hfails, hearlier⟩ := (ih _).1 h
        exact .inr ⟨i, hfails, rfl, hearlier⟩
      · rintro (⟨hfirst, -⟩ | ⟨i, hfails, -, hearlier⟩)
        · cases hfirst
        · exact (ih _).2 ⟨i, hfails, hearlier⟩

theorem runsInTurn_runAll : RunsInTurn callbacks argument (runAll callbacks argument) where
  state := state_runAll callbacks argument
  ok_iff := runAll_ok_iff callbacks argument
  error_iff := runAll_error_iff callbacks argument

end RunAll

/-- There is only one way to run callbacks in turn. -/
theorem runsInTurn_iff {callbacks : List (Callback σ β)} {argument : β} {action : Action σ Unit} :
    RunsInTurn callbacks argument action ↔ action = runAll callbacks argument := by
  have hall := runsInTurn_runAll callbacks argument
  constructor
  · intro h
    refine funext fun s => Prod.ext ?_ ((h.state s).trans (hall.state s).symm)
    change (action.run.run s).1 = ((runAll callbacks argument).run.run s).1
    cases hresult : ((runAll callbacks argument).run.run s).1 with
    | ok => exact (h.ok_iff s).2 ((hall.ok_iff s).1 hresult)
    | error e => exact (h.error_iff s e).2 ((hall.error_iff s e).1 hresult)
  · rintro rfl
    exact hall

/-! ## A log of the callbacks -/

/-- A callback with a number that does what another does, and before that notes the number, the
argument and the state that it was given. -/
def noting (i : Nat) (callback : Callback σ β) : Callback (σ × List (Nat × β × σ)) β :=
  fun argument (s, log) =>
    let (result, s') := (callback argument).run.run s
    (result, s', log ++ [(i, argument, s)])

/-- Every callback is noted once, and the first of them first. -/
theorem serve_noting (callbacks : List (Callback σ β)) (argument : β) (s : σ) :
    serve (callbacks.mapIdx noting) argument (s, []) = (serve callbacks argument s,
      callbacks.mapIdx fun i _ => (i, argument, serve (callbacks.take i) argument s)) := by
  -- The numbers and the log are what they have become after some callbacks.
  suffices h : ∀ (n : Nat) (log : List (Nat × β × σ)),
      serve (callbacks.mapIdx fun i => noting (i + n)) argument (s, log) =
        (serve callbacks argument s, log ++
          callbacks.mapIdx fun i _ => (i + n, argument, serve (callbacks.take i) argument s)) from
    h 0 []
  induction callbacks generalizing s with
  | nil => exact fun n log => congrArg (Prod.mk s) (List.append_nil log).symm
  | cons callback callbacks ih =>
    intro n log
    have hnext := ih ((callback argument).run.run s).2 (n + 1) (log ++ [(n, argument, s)])
    have hshift (i : Nat) : i + 1 + n = i + (n + 1) := by omega
    rw [List.append_assoc, List.singleton_append] at hnext
    simp only [List.mapIdx_cons, hshift, Nat.zero_add]
    exact hnext

/-! ## What a table has for a code -/

/-- Nothing is found if there are no callbacks, and what is found runs the callbacks in turn. -/
structure Serves (callbacks : List (Callback σ β)) (argument : β)
    (found : Option (Action σ Unit)) : Prop where
  none_iff : found = none ↔ callbacks = []
  runsInTurn : ∀ action, found = some action → RunsInTurn callbacks argument action

theorem serves_ite (callbacks : List (Callback σ β)) (argument : β) :
    Serves callbacks argument
      (if callbacks = [] then none else some (runAll callbacks argument)) := by
  split
  · rename_i hnone
    exact ⟨iff_of_true rfl hnone, nofun⟩
  · rename_i hsome
    refine ⟨iff_of_false nofun hsome, ?_⟩
    rintro _ ⟨⟩
    exact runsInTurn_runAll callbacks argument

theorem serves_map {stored : Option (List (Callback σ β))} {callbacks : List (Callback σ β)}
    (h : stored = if callbacks = [] then none else some callbacks) (argument : β) :
    Serves callbacks argument (stored.map (runAll · argument)) := by
  rw [h, apply_ite (Option.map (runAll · argument))]
  exact serves_ite callbacks argument

/-- One more callback goes behind those that are stored. -/
theorem stored_concat {V : Type} (values : List V) (value : V) :
    some ((if values = [] then none else some values).getD [] ++ [value]) =
      if values ++ [value] = [] then none else some (values ++ [value]) := by
  cases values <;> simp

namespace Routes

/-- Routes to which these callbacks were added under their codes, one after another. -/
def ofList (additions : List (UInt16 × Callback σ β)) : Routes σ β :=
  additions.foldl (fun routes (code, callback) => routes.add code callback) .empty

/-- The callbacks that were added under a code. -/
def added (additions : List (UInt16 × Callback σ β)) (code : UInt16) : List (Callback σ β) :=
  (additions.filter (·.1 = code)).map Prod.snd

theorem getElem?_ofList (additions : List (UInt16 × Callback σ β)) (code : UInt16) :
    (ofList additions).table[code]? =
      if added additions code = [] then none else some (added additions code) := by
  induction additions using List.reverseRecOn generalizing code with
  | nil => exact Std.ExtTreeMap.getElem?_empty
  | append_singleton additions addition ih =>
    have hadd : ofList (additions ++ [addition]) =
        (ofList additions).add addition.1 addition.2 := by
      simp [ofList]
    rw [hadd, getElem?_add, ih, ih]
    by_cases hcode : addition.1 = code
    · have hlast : added (additions ++ [addition]) code = added additions code ++ [addition.2] := by
        simp [added, hcode]
      rw [if_pos hcode, hcode, hlast, stored_concat]
    · have hother : added (additions ++ [addition]) code = added additions code := by
        simp [added, hcode]
      rw [if_neg hcode, hother]

theorem serves_invoke (additions : List (UInt16 × Callback σ β)) (code : UInt16) (argument : β) :
    Serves (added additions code) argument ((ofList additions).invoke? code argument) :=
  serves_map (getElem?_ofList additions code) argument

end Routes

/-- The handler, if it is a built-in one for a code. -/
def Registration.builtin? (code : UInt16) : Registration σ → Option (Handler σ)
  | builtin registered h => if registered = code then some h else none
  | _ => none

namespace Registry

variable {registrations : List (Registration σ)} {r : Registry σ}

/-- Every code has the built-in handlers that were registered for it, in order. -/
def ListsBuiltins (r : Registry σ) (registrations : List (Registration σ)) : Prop :=
  ∀ code : UInt16, r.builtins[code]? =
    if registrations.filterMap (Registration.builtin? code) = [] then none
    else some (registrations.filterMap (Registration.builtin? code))

theorem ListsBuiltins.register {r r' : Registry σ} {registrations : List (Registration σ)}
    (h : r.ListsBuiltins registrations) {registration : Registration σ}
    (hok : r.register registration = .ok r') :
    r'.ListsBuiltins (registrations ++ [registration]) := by
  intro code
  rw [List.filterMap_append, filterMap_singleton]
  cases registration with
  | handler registered handler =>
    obtain rfl := eq_of_addHandler hok
    rw [h]
    simp [Registration.builtin?]
  | builtin registered handler =>
    simp only [Registry.register, addBuiltin] at hok
    split at hok
    · cases hok
    cases hok
    rw [getElem?_addTo, h, h, Registration.builtin?]
    by_cases hcode : registered = code
    · rw [if_pos hcode, if_pos hcode, hcode]
      exact stored_concat _ handler
    · rw [if_neg hcode, if_neg hcode, Option.toList_none, List.append_nil]
  | middleware registered level layer =>
    obtain rfl := eq_of_addMiddleware hok
    rw [h]
    simp [Registration.builtin?]

theorem listsBuiltins (h : registrations.foldlM register .empty = .ok r) :
    r.ListsBuiltins registrations := by
  have hempty : (empty : Registry σ).ListsBuiltins [] := fun _ => Std.ExtTreeMap.getElem?_empty
  exact foldlM_induction (fun hbefore hnext => hbefore.register hnext) hempty h

theorem serves_dispatchBuiltin (h : registrations.foldlM register .empty = .ok r) (frame : Frame) :
    Serves (registrations.filterMap (Registration.builtin? frame.code)) frame
      (r.build.1.dispatchBuiltin? frame) := by
  have hfound : r.build.1.dispatchBuiltin? frame =
      (r.builtins[frame.code]?).map (runAll · frame) := by
    change (r.table.builtin[frame.code]?).map (· frame) = _
    simp only [table, Std.ExtTreeMap.getElem?_map, Option.map_map, Function.comp_def,
      fanOut_eq_runAll]
  rw [hfound]
  exact serves_map (listsBuiltins h frame.code) frame

/-- The handlers of a code stand innermost, as one that runs them in turn. -/
theorem dispatch?_eq (h : registrations.foldlM register .empty = .ok r) (frame : Frame) :
    r.build.1.dispatch? frame =
      if registrations.filterMap (Registration.handler? frame.code) = [] then none
      else some (r.wrapFrom frame.code maxLevel
        (runAll (registrations.filterMap (Registration.handler? frame.code))) frame) := by
  have hstored := (Holds.empty.foldlM h).getElem?_handlers frame.code
  change (r.table.main[frame.code]?).map (· frame) = _
  rw [getElem?_table_main, hstored, List.nil_append]
  split
  · rfl
  · simp only [Option.map_some, fanOut_eq_runAll]

/-- Without middleware they run in turn. -/
theorem serves_dispatch (h : registrations.foldlM register .empty = .ok r)
    (hplain : r.middleware = []) (frame : Frame) :
    Serves (registrations.filterMap (Registration.handler? frame.code)) frame
      (r.build.1.dispatch? frame) := by
  rw [dispatch?_eq h, wrapFrom_of_plain hplain]
  exact serves_ite _ frame

end Registry

/-- **Callbacks run in turn.**  One action runs all of a list in order, whatever they come to, and
has the earliest failure as its result.  So does what is found under a code in routes, among the
built-in handlers, and among the others inside their middleware. -/
theorem callbacks_run_in_turn :
    (∀ (callbacks : List (Callback σ β)) (argument : β) (action : Action σ Unit),
      RunsInTurn callbacks argument action ↔ action = runAll callbacks argument) ∧
    (∀ (handlers : List (Handler σ)) (frame : Frame),
      RunsInTurn handlers frame (Registry.fanOut handlers frame)) ∧
    (∀ (additions : List (UInt16 × Callback σ β)) (code : UInt16) (argument : β),
      Serves (Routes.added additions code) argument
        ((Routes.ofList additions).invoke? code argument)) ∧
    (∀ (registrations : List (Registration σ)) (r : Registry σ),
      registrations.foldlM Registry.register .empty = .ok r → ∀ frame : Frame,
        let handlers := registrations.filterMap (Registration.handler? frame.code)
        Serves (registrations.filterMap (Registration.builtin? frame.code)) frame
          (r.build.1.dispatchBuiltin? frame) ∧
        (r.middleware = [] → Serves handlers frame (r.build.1.dispatch? frame)) ∧
        ∃ composed : Handler σ, (∀ argument, RunsInTurn handlers argument (composed argument)) ∧
          r.build.1.dispatch? frame =
            if handlers = [] then none
            else some (r.wrapFrom frame.code maxLevel composed frame)) ∧
    ∀ (callbacks : List (Callback σ β)) (argument : β)
      (action : Action (σ × List (Nat × β × σ)) Unit),
      RunsInTurn (callbacks.mapIdx noting) argument action → ∀ s,
        (action.run.run (s, [])).2 = (serve callbacks argument s,
          callbacks.mapIdx fun i _ => (i, argument, serve (callbacks.take i) argument s)) := by
  refine ⟨fun _ _ _ => runsInTurn_iff, fun handlers frame => ?_, Routes.serves_invoke,
    fun registrations r h frame => ⟨Registry.serves_dispatchBuiltin h frame, fun hplain => ?_,
      runAll _, runsInTurn_runAll _, Registry.dispatch?_eq h frame⟩,
    fun callbacks argument action h s => (h.state _).trans (serve_noting callbacks argument s)⟩
  · rw [Registry.fanOut_eq_runAll]
    exact runsInTurn_runAll handlers frame
  · exact Registry.serves_dispatch h hplain frame

/-- Three handlers of one code, of which the first succeeds and the others fail. -/
def failing : List (Registration Nat) :=
  [.handler 9 fun _ => modify (· + 1),
    .handler 9 fun _ => do
      modify (· + 1)
      throw (.failed "second"),
    .builtin 9 fun _ => modify (· + 5),
    .handler 9 fun _ => do
      modify (· * 2)
      throw (.failed "third")]

theorem callbacks_run_in_turn_failing :
    let frame : Frame := ⟨0x09, 9, []⟩
    let handlers := failing.filterMap (Registration.handler? 9)
    ∃ r, failing.foldlM Registry.register .empty = .ok r ∧ r.middleware = [] ∧
      (∃ action, r.build.1.dispatch? frame = some action ∧
        action.run.run 1 = (.error (.failed "second"), 6)) ∧
      RunsInTurn (handlers.mapIdx noting) frame (runAll (handlers.mapIdx noting) frame) ∧
      ((runAll (handlers.mapIdx noting) frame).run.run (1, [])).2 =
        (6, [(0, frame, 1), (1, frame, 2), (2, frame, 3)]) := by
  intro frame handlers
  obtain ⟨r, hr, hplain⟩ :
      ∃ r, failing.foldlM Registry.register .empty = .ok r ∧ r.middleware = [] := ⟨_, rfl, rfl⟩
  obtain ⟨-, -, -, htable, hlog⟩ := callbacks_run_in_turn (σ := Nat) (β := Frame)
  have hserves := (htable failing r hr frame).2.1 hplain
  have hnoting := runsInTurn_runAll (handlers.mapIdx noting) frame
  refine ⟨r, hr, hplain, ?_, hnoting, hlog handlers frame _ hnoting 1⟩
  obtain ⟨action, hfound⟩ := Option.ne_none_iff_exists'.1 fun h => nomatch hserves.none_iff.1 h
  have hturn := hserves.runsInTurn action hfound
  have hfails : (action.run.run 1).1 = .error (.failed "second") := by
    refine (hturn.error_iff 1 _).2 ⟨1, rfl, fun j hj => ?_⟩
    obtain rfl : j = 0 := by omega
    rfl
  exact ⟨action, hfound, Prod.ext hfails (hturn.state 1)⟩

end Multiplayer
