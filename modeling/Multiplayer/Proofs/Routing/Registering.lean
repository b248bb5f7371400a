import Multiplayer.Proofs.Chronicle
import Multiplayer.Proofs.Routing.Nesting

/-!
# Registering until a table is built

A registry is used in any order: something is registered, or a table is built.  A registration is
taken or refused as a whole, and the first table seals the registry for good.  So however often a
table is built, it is the one of what was taken.

* `Registry.Performs`: what a use comes to, and `performs` says that nothing else happens.
* `Registry.Follows`: what the past of a registry says about it, and what every use preserves.
* `Registry.Decided`: which registrations are refused, and why.
* `Registry.all_or_nothing` is the result.
-/

namespace Multiplayer.Registry

variable {σ : Type}

/-! ## Uses of a registry -/

/-- One use of a registry. -/
inductive Use (σ : Type) where
  | register (registration : Registration σ)
  | build

/-- A use as it has turned out. -/
inductive Deed (σ : Type) where
  | registered (registration : Registration σ) (result : Except RoutingError Unit)
  | built (table : Table σ)

namespace Deed

def use : Deed σ → Use σ
  | registered registration _ => .register registration
  | built _ => .build

/-- The registration, if it was taken. -/
def taken? : Deed σ → Option (Registration σ)
  | registered registration (.ok ()) => some registration
  | _ => none

/-- Why a registration was refused, if it was. -/
def refusal? : Deed σ → Option RoutingError
  | registered _ (.error e) => some e
  | _ => none

end Deed

/-- Uses the registry.  What refuses a registration leaves the registry as it is. -/
def perform (r : Registry σ) : Use σ → Deed σ × Registry σ
  | .register registration =>
    match r.register registration with
    | .ok r' => (.registered registration (.ok ()), r')
    | .error e => (.registered registration (.error e), r)
  | .build => (.built r.build.1, r.build.2)

/-! ## Single uses -/

theorem perform_of_ok {r r' : Registry σ} {registration : Registration σ}
    (h : r.register registration = .ok r') :
    r.perform (.register registration) = (.registered registration (.ok ()), r') := by
  simp only [perform, h]

theorem perform_of_error {r : Registry σ} {registration : Registration σ} {e : RoutingError}
    (h : r.register registration = .error e) :
    r.perform (.register registration) = (.registered registration (.error e), r) := by
  simp only [perform, h]

/-- What a use comes to, with the registry that it leaves. -/
inductive Performs (r : Registry σ) : Use σ → Deed σ × Registry σ → Prop
  | closed {registration} (hsealed : r.isSealed = true) :
    Performs r (.register registration) (.registered registration (.error .alreadySealed), r)
  | invalid {code level layer} (hopen : r.isSealed = false) (hlevel : maxLevel < level.toNat) :
    Performs r (.register (.middleware code level layer))
      (.registered (.middleware code level layer) (.error (.invalidLevel level)), r)
  | taken {registration r'} (hopen : r.isSealed = false) (hleveled : registration.Leveled)
    (hok : r.register registration = .ok r') (hstill : r'.isSealed = false) :
    Performs r (.register registration) (.registered registration (.ok ()), r')
  | built : Performs r .build (.built r.build.1, r.build.2)

theorem performs_taken {r r' : Registry σ} {registration : Registration σ}
    (hopen : r.isSealed = false) (hleveled : registration.Leveled)
    (hok : r.register registration = .ok r') (hstill : r'.isSealed = false) :
    Performs r (.register registration) (r.perform (.register registration)) := by
  rw [perform_of_ok hok]
  exact .taken hopen hleveled hok hstill

theorem register_of_sealed {r : Registry σ} (h : r.isSealed = true)
    (registration : Registration σ) : r.register registration = .error .alreadySealed := by
  cases registration with
  | handler code handler => rw [register, addHandler, if_pos h]
  | builtin code handler => rw [register, addBuiltin, if_pos h]
  | middleware code level layer => rw [register, addMiddleware, if_pos h]

theorem performs (r : Registry σ) (use : Use σ) : Performs r use (r.perform use) := by
  cases use with
  | build => exact .built
  | register registration =>
    by_cases hsealed : r.isSealed = true
    · rw [perform_of_error (register_of_sealed hsealed registration)]
      exact .closed hsealed
    have hopen : r.isSealed = false := eq_false_of_ne_true hsealed
    cases registration with
    | handler code handler =>
      have htaken : r.register (.handler code handler) =
          .ok { r with handlers := addTo r.handlers code handler } := by
        rw [register, addHandler, if_neg hsealed]
      exact performs_taken hopen trivial htaken hopen
    | builtin code handler =>
      have htaken : r.register (.builtin code handler) =
          .ok { r with builtins := addTo r.builtins code handler } := by
        rw [register, addBuiltin, if_neg hsealed]
      exact performs_taken hopen trivial htaken hopen
    | middleware code level layer =>
      by_cases hlevel : maxLevel < level.toNat
      · have hrefused : r.register (.middleware code level layer) =
            .error (.invalidLevel level) := by
          rw [register, addMiddleware, if_neg hsealed, if_pos hlevel]
        rw [perform_of_error hrefused]
        exact .invalid hopen hlevel
      · have htaken : r.register (.middleware code level layer) = .ok { r with
            middleware := r.middleware ++ [(Scope.containing level.toNat code, layer)] } := by
          rw [register, addMiddleware, if_neg hsealed, if_neg hlevel]
        exact performs_taken hopen (Nat.le_of_not_lt hlevel) htaken hopen

theorem use_perform (r : Registry σ) (use : Use σ) : (r.perform use).1.use = use := by
  have hperforms := performs r use
  generalize r.perform use = run at hperforms ⊢
  cases hperforms <;> rfl

/-! ## What the past says -/

/-- An open registry has what was taken.  A registry is sealed if a table was built, and every table
that was built is still the table that it has. -/
structure Follows (past : List (Deed σ)) (r : Registry σ) : Prop where
  replayed : (past.filterMap Deed.taken?).foldlM register .empty =
    .ok { r with isSealed := false }
  isSealed_iff : r.isSealed = true ↔ ∃ table, .built table ∈ past
  tables : ∀ table, .built table ∈ past → table = r.table

namespace Follows

variable {past : List (Deed σ)} {r : Registry σ}

theorem empty : Follows [] (Registry.empty : Registry σ) where
  replayed := rfl
  isSealed_iff := by simp [Registry.empty]
  tables _ h := absurd h List.not_mem_nil

theorem not_built (h : Follows past r) (hopen : r.isSealed = false) (table : Table σ) :
    .built table ∉ past := by
  intro hmem
  have hsealed := h.isSealed_iff.2 ⟨table, hmem⟩
  rw [hopen] at hsealed
  cases hsealed

/-- Nothing is taken and no table is built. -/
theorem refused (h : Follows past r) (registration : Registration σ) (e : RoutingError) :
    Follows (past ++ [.registered registration (.error e)]) r where
  replayed := by
    have hnothing : [Deed.registered registration (.error e)].filterMap Deed.taken? = [] := rfl
    rw [List.filterMap_append, hnothing, List.append_nil]
    exact h.replayed
  isSealed_iff := by simp [h.isSealed_iff]
  tables := by simpa using h.tables

theorem taken (h : Follows past r) {registration : Registration σ} {r' : Registry σ}
    (hopen : r.isSealed = false) (hok : r.register registration = .ok r')
    (hstill : r'.isSealed = false) :
    Follows (past ++ [.registered registration (.ok ())]) r' where
  replayed := by
    have hbefore : ({ r with isSealed := false } : Registry σ) = r := by rw [← hopen]
    have hafter : ({ r' with isSealed := false } : Registry σ) = r' := by rw [← hstill]
    have hlast : [Deed.registered registration (.ok ())].filterMap Deed.taken? =
        [registration] := rfl
    rw [List.filterMap_append, hlast, List.foldlM_append, h.replayed, hbefore, hafter]
    change (r.register registration >>= pure) = _
    rw [hok]
    rfl
  isSealed_iff := by
    have hnone := h.not_built hopen
    simp [hstill, hnone]
  tables := by
    have hnone := h.not_built hopen
    simp [hnone]

theorem built (h : Follows past r) : Follows (past ++ [.built r.build.1]) r.build.2 where
  replayed := by
    have hnothing : [Deed.built r.build.1].filterMap Deed.taken? = [] := rfl
    rw [List.filterMap_append, hnothing, List.append_nil]
    exact h.replayed
  isSealed_iff := by simp [build]
  tables table hmem := by
    -- Sealing leaves everything that a table is built from.
    rcases List.mem_append.1 hmem with hpast | hlast
    · exact h.tables table hpast
    · cases List.mem_singleton.1 hlast
      rfl

theorem perform (h : Follows past r) (use : Use σ) :
    Follows (past ++ [(r.perform use).1]) (r.perform use).2 := by
  have hperforms := performs r use
  generalize r.perform use = run at hperforms ⊢
  cases hperforms with
  | closed => exact h.refused _ _
  | invalid => exact h.refused _ _
  | taken hopen _ hok hstill => exact h.taken hopen hok hstill
  | built => exact h.built

end Follows

/-! ## What is refused -/

/-- After the first table every registration is refused.  Before it, middleware is refused that is
for more leading bits than a code has, and nothing else. -/
structure Decided (past : List (Deed σ)) (registration : Registration σ)
    (result : Except RoutingError Unit) : Prop where
  alreadySealed : result = .error .alreadySealed ↔ ∃ table, .built table ∈ past
  invalidLevel : ∀ level, result = .error (.invalidLevel level) ↔
    (∀ table, .built table ∉ past) ∧ maxLevel < level.toNat ∧
      ∃ code layer, registration = .middleware code level layer
  taken : result = .ok () ↔ (∀ table, .built table ∉ past) ∧ registration.Leveled

theorem Follows.decided {past : List (Deed σ)} {r r' : Registry σ} (h : Follows past r)
    {use : Use σ} {registration : Registration σ} {result : Except RoutingError Unit}
    (hperforms : Performs r use (.registered registration result, r')) :
    Decided past registration result := by
  cases hperforms with
  | closed hsealed =>
    obtain ⟨table, hbuilt⟩ := h.isSealed_iff.1 hsealed
    exact ⟨iff_of_true rfl ⟨table, hbuilt⟩,
      fun level => iff_of_false nofun fun hopen => hopen.1 table hbuilt,
      iff_of_false nofun fun hopen => hopen.1 table hbuilt⟩
  | @invalid code level layer hopen hlevel =>
    have hnone := h.not_built hopen
    refine ⟨iff_of_false nofun fun ⟨table, hbuilt⟩ => hnone table hbuilt, fun other => ?_,
      iff_of_false nofun fun htaken => Nat.not_le.2 hlevel htaken.2⟩
    constructor
    · intro hsame
      cases hsame
      exact ⟨hnone, hlevel, code, layer, rfl⟩
    · rintro ⟨-, -, _, _, hsame⟩
      cases hsame
      rfl
  | taken hopen hleveled =>
    have hnone := h.not_built hopen
    refine ⟨iff_of_false nofun fun ⟨table, hbuilt⟩ => hnone table hbuilt, fun level => ?_,
      iff_of_true rfl ⟨hnone, hleveled⟩⟩
    refine iff_of_false nofun ?_
    rintro ⟨-, hlevel, code, layer, rfl⟩
    exact Nat.not_le.2 hlevel hleveled

/-- What was taken and whether a table was built say what the registry is and what it refuses. -/
theorem chronicled : Chronicled (perform (σ := σ)) Follows fun past deed =>
    ∀ registration result, deed = .registered registration result →
      Decided past registration result where
  fits {_ r} h use registration result hdeed := by
    have hperforms : Performs r use ((r.perform use).1, (r.perform use).2) := performs r use
    rw [hdeed] at hperforms
    exact h.decided hperforms
  follows h use := h.perform use

/-- **A registration is taken or refused as a whole, and a seal is for good.**  It is refused after
the first table, or for more than sixteen leading bits.  Every table that was built is the one that
a fresh registry builds from what was taken. -/
theorem all_or_nothing (uses : List (Use σ)) :
    let history := chronicle perform .empty uses
    history.map Deed.use = uses ∧
      (∀ past registration result later,
        history = past ++ .registered registration result :: later →
          Decided past registration result) ∧
      ∃ r, (history.filterMap Deed.taken?).foldlM register .empty = .ok r ∧
        ∀ table, .built table ∈ history → table = r.build.1 := by
  intro history
  have hfollows : Follows history (outcome perform .empty uses) :=
    chronicled.outcome Follows.empty uses
  refine ⟨map_chronicle use_perform _ uses, ?_, _, hfollows.replayed, hfollows.tables⟩
  intro past registration result later hhistory
  exact chronicled.deed Follows.empty hhistory registration result rfl

/-- Middleware for too many bits, a handler inside other middleware, and a handler that comes too
late, with a table before it and one after it. -/
def interleaved : List (Use (List Nat)) :=
  [.register (.middleware 0 17 (marking 17)), .register (.handler 7 fun _ => modify (· ++ [100])),
    .register (.middleware 0 0 (marking 0)), .build,
    .register (.handler 7 fun _ => modify (· ++ [101])), .build]

theorem all_or_nothing_interleaved :
    let history := chronicle perform .empty interleaved
    history.filterMap Deed.refusal? = [.invalidLevel 17, .alreadySealed] ∧
      ∃ r, (history.filterMap Deed.taken?).foldlM register .empty = .ok r ∧
        ∃ first second, .built first ∈ history ∧ .built second ∈ history ∧
          first = r.build.1 ∧ second = r.build.1 ∧
          (second.dispatch? ⟨0x09, 7, []⟩).map (fun action => (action.run.run []).2) =
            some [0, 100] := by
  intro history
  obtain ⟨-, -, r, hr, htables⟩ := all_or_nothing interleaved
  have hfirst : .built (outcome perform .empty (interleaved.take 3)).table ∈ history :=
    List.mem_of_getElem? (i := 3) rfl
  have hsecond : .built (outcome perform .empty (interleaved.take 5)).table ∈ history :=
    List.mem_of_getElem? (i := 5) rfl
  exact ⟨rfl, r, hr, _, _, hfirst, hsecond, htables _ hfirst, htables _ hsecond, by decide⟩

end Multiplayer.Registry
