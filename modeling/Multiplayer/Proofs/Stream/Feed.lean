import Multiplayer.Stream.Assembler

/-!
# The assembler byte by byte

The assembler takes bytes in portions, each of at most what its stage wants.  Fed byte by byte it
ends in the same state with the same events, so a portion is only an abbreviation, and what a
source does can be forgotten once it is known which bytes it has delivered.

* `Stage.Partial`: less is held of a unit than the unit has.  Polls and resets keep it.
* `feed_eq_accept`: a portion is taken as its bytes are, one by one.
* `poll_feed`: a poll feeds what the source has delivered, also if the source then fails.
* `drain_bytes`: a byte string is drained by feeding all of it.
-/

namespace Multiplayer

theorem Bytes.toNat_pair_lt (high low : UInt8) : toNat [high, low] < UInt16.size := by
  simpa using toNat_lt [high, low]

/-! ## Stages that wait for more -/

/-- Less is held of the unit in progress than the unit has. -/
def Stage.Partial : Stage → Prop
  | .clock filled => filled.size < clockLength
  | .payload _ length filled => filled.size < length ∧ length < UInt16.size
  | _ => True

theorem Stage.Partial.wanted_pos {stage : Stage} (h : stage.Partial) : 0 < stage.wanted := by
  cases stage with
  | clock filled =>
    simp only [Partial, wanted] at h ⊢
    omega
  | payload header length filled =>
    simp only [Partial, wanted] at h ⊢
    omega
  | _ => exact Nat.one_pos

namespace Assembler

theorem partial_acceptHeader (discarded : Nat) (header : UInt8) :
    (acceptHeader discarded header).2.stage.Partial := by
  unfold acceptHeader
  split <;> simp [Stage.Partial, Stage.clockLength]

theorem partial_accept {a : Assembler} (h : a.stage.Partial) (b : UInt8) (more : Bytes) :
    (a.accept b more).2.stage.Partial := by
  obtain ⟨stage, discarded⟩ := a
  cases stage with
  | header => exact partial_acceptHeader discarded b
  | clock filled =>
    simp only [accept]
    split
    · assumption
    · trivial
  | lengthLow header high =>
    have hlength := Bytes.toNat_pair_lt high b
    simp only [accept]
    split
    · trivial
    · rename_i hzero
      exact ⟨Nat.pos_of_ne_zero hzero, hlength⟩
  | payload header length filled =>
    simp only [accept]
    split
    · exact ⟨by assumption, h.2⟩
    · trivial
  | _ => trivial

/-! ## Feeding -/

/-- The events of some bytes, taken one by one, and the state after them. -/
def feed : Assembler → Bytes → List StreamEvent × Assembler
  | a, [] => ([], a)
  | a, b :: bytes =>
    let (event?, a') := a.accept b []
    let (events, a'') := a'.feed bytes
    (event?.toList ++ events, a'')

@[simp] theorem feed_nil (a : Assembler) : a.feed [] = ([], a) := rfl

theorem feed_cons (a : Assembler) (b : UInt8) (bytes : Bytes) :
    a.feed (b :: bytes) =
      ((a.accept b []).1.toList ++ ((a.accept b []).2.feed bytes).1,
        ((a.accept b []).2.feed bytes).2) := rfl

theorem feed_append (a : Assembler) (xs ys : Bytes) :
    a.feed (xs ++ ys) =
      ((a.feed xs).1 ++ ((a.feed xs).2.feed ys).1, ((a.feed xs).2.feed ys).2) := by
  induction xs generalizing a with
  | nil => rfl
  | cons b xs ih => simp only [List.cons_append, feed_cons, ih, List.append_assoc]

theorem partial_feed {a : Assembler} (h : a.stage.Partial) (bytes : Bytes) :
    (a.feed bytes).2.stage.Partial := by
  induction bytes generalizing a with
  | nil => exact h
  | cons b bytes ih => exact ih (partial_accept h b [])

/-- A stage that wants more than one byte takes the first of them without completing anything. -/
theorem accept_cons {a : Assembler} (hwanted : 1 < a.stage.wanted) (b c : UInt8) (more : Bytes) :
    (a.accept b []).1 = none ∧ (a.accept b []).2.stage.wanted + 1 = a.stage.wanted ∧
      a.accept b (c :: more) = (a.accept b []).2.accept c more := by
  obtain ⟨stage, discarded⟩ := a
  cases stage with
  | clock filled =>
    simp only [Stage.wanted] at hwanted
    have hsize : filled.size + 1 < Stage.clockLength := by omega
    simp only [accept, Array.appendList_nil, Array.appendList_cons, Array.size_push, hsize, if_true,
      Stage.wanted, true_and, and_true]
    omega
  | payload header length filled =>
    simp only [Stage.wanted] at hwanted
    have hsize : filled.size + 1 < length := by omega
    simp only [accept, Array.appendList_nil, Array.appendList_cons, Array.size_push, hsize, if_true,
      Stage.wanted, true_and, and_true]
    omega
  | _ => simp [Stage.wanted] at hwanted

/-- A portion is taken as its bytes are, one by one. -/
theorem feed_eq_accept {a : Assembler} {b : UInt8} {more : Bytes}
    (hlength : more.length < a.stage.wanted) :
    a.feed (b :: more) = ((a.accept b more).1.toList, (a.accept b more).2) := by
  induction more generalizing a b with
  | nil => simp [feed_cons]
  | cons c more ih =>
    rw [List.length_cons] at hlength
    have hone : 1 < a.stage.wanted := by omega
    obtain ⟨hnone, hwanted, haccept⟩ := accept_cons hone b c more
    rw [feed_cons, hnone, ih (by omega), haccept]
    rfl

end Assembler

/-! ## Sources -/

/-- `remaining` is what a source has yet to deliver.  A read gives bytes from the front of it, and
a read that fails takes nothing from it. -/
structure ByteSource.Delivers {σ ε : Type} [ByteSource σ ε] (remaining : σ → Bytes) : Prop where
  of_ok {wanted : Nat} {s s' : σ} {piece : Bytes} :
    ByteSource.read wanted s = (.ok piece, s') → remaining s = piece ++ remaining s'
  of_error {wanted : Nat} {s s' : σ} {e : ε} :
    ByteSource.read wanted s = (.error e, s') → remaining s' = remaining s

theorem ByteSource.delivers_bytes : ByteSource.Delivers (fun bytes : Bytes => bytes) where
  of_ok {wanted s _ _} h := by
    cases h
    exact (List.take_append_drop wanted s).symm
  of_error h := by cases h

namespace Assembler

variable {σ ε : Type} [ByteSource σ ε]

/-- The event of a poll, if there is one. -/
def polledEvents : Except ε (Option StreamEvent) → List StreamEvent
  | .ok (some event) => [event]
  | _ => []

theorem partial_poll {a : Assembler} (h : a.stage.Partial) (s : σ) :
    (a.poll s).2.1.stage.Partial := by
  fun_induction poll a s with
  | case1 => exact h
  | case2 => exact h
  | case3 a s b more s' hread event a' haccept =>
    have := partial_accept h b more
    rwa [haccept] at this
  | case4 a s b more s' hread a' haccept ih =>
    have := partial_accept h b more
    rw [haccept] at this
    exact ih this

/-- What a read keeps of the source, a poll keeps. -/
theorem keeps_poll {P : σ → Prop} (hread : ∀ wanted s, P s → P (ByteSource.read wanted s).2)
    (a : Assembler) {s : σ} (h : P s) : P (a.poll s).2.2 := by
  have hnext {wanted : Nat} {s s' : σ} {result} (hs : P s)
      (hsource : ByteSource.read wanted s = (result, s')) : P s' := by
    have hkept := hread wanted s hs
    rwa [hsource] at hkept
  fun_induction poll a s with
  | case1 a s e s' hsource => exact hnext h hsource
  | case2 a s s' hsource => exact hnext h hsource
  | case3 a s b more s' hsource event a' haccept => exact hnext h hsource
  | case4 a s b more s' hsource a' haccept ih => exact ih (hnext h hsource)

/-- A poll feeds what the source has delivered, and gives the event of that if there is one. -/
theorem poll_feed {remaining : σ → Bytes} (hd : ByteSource.Delivers remaining) (a : Assembler)
    (s : σ) :
    ∃ taken, remaining s = taken ++ remaining (a.poll s).2.2 ∧
      a.feed taken = (polledEvents (a.poll s).1, (a.poll s).2.1) := by
  fun_induction poll a s with
  | case1 a s e s' hread => exact ⟨[], by simp [hd.of_error hread], rfl⟩
  | case2 a s s' hread => exact ⟨[], hd.of_ok hread, rfl⟩
  | case3 a s b more s' hread event a' haccept =>
    have hlength := ByteSource.length_read_le (congrArg Prod.fst hread)
    refine ⟨b :: more, hd.of_ok hread, ?_⟩
    rw [feed_eq_accept hlength, haccept]
    rfl
  | case4 a s b more s' hread a' haccept ih =>
    have hlength := ByteSource.length_read_le (congrArg Prod.fst hread)
    obtain ⟨taken, hrest, hfeed⟩ := ih
    refine ⟨b :: more ++ taken, ?_, ?_⟩
    · rw [hd.of_ok hread, hrest, List.append_assoc]
    · rw [feed_append, feed_eq_accept hlength, haccept, hfeed]
      rfl

/-- A byte string has nothing to give only at its end. -/
theorem poll_bytes_none {a : Assembler} (h : a.stage.Partial) {bytes : Bytes}
    (hnone : (a.poll bytes).1 = .ok none) : (a.poll bytes).2.2 = [] := by
  fun_induction poll a bytes with
  | case1 => cases hnone
  | case2 a bytes bytes' hread =>
    have hread : (Except.ok (bytes.take a.stage.wanted), bytes.drop a.stage.wanted) =
      ((.ok [], bytes') : Except Empty Bytes × Bytes) := hread
    simp only [Prod.mk.injEq, Except.ok.injEq, List.take_eq_nil_iff] at hread
    rcases hread.1 with hwanted | hbytes
    · have := h.wanted_pos
      omega
    · simp [← hread.2, hbytes]
  | case3 => cases hnone
  | case4 a bytes b more bytes' hread a' haccept ih =>
    have := partial_accept h b more
    rw [haccept] at this
    exact ih this hnone

/-- Draining a byte string is feeding all of it. -/
theorem drain_bytes {a : Assembler} (h : a.stage.Partial) (bytes : Bytes) :
    a.drain bytes = ((a.feed bytes).1, none, (a.feed bytes).2, []) := by
  fun_induction drain a bytes with
  | case1 a bytes e => exact e.elim
  | case2 a bytes a' bytes' hpoll =>
    obtain ⟨taken, hrest, hfeed⟩ := poll_feed ByteSource.delivers_bytes a bytes
    have hend := poll_bytes_none h (congrArg Prod.fst hpoll)
    rw [hpoll] at hrest hfeed hend
    simp only at hrest hend
    rw [hend, List.append_nil] at hrest
    subst hend hrest
    rw [hfeed]
    rfl
  | case3 a bytes event a' bytes' hpoll events failure a'' bytes'' hdrain ih =>
    obtain ⟨taken, hrest, hfeed⟩ := poll_feed ByteSource.delivers_bytes a bytes
    have hpartial := partial_poll h bytes
    rw [hpoll] at hrest hfeed hpartial
    have hrun := hdrain.symm.trans (ih hpartial)
    simp only [Prod.mk.injEq] at hrun
    obtain ⟨rfl, rfl, rfl, rfl⟩ := hrun
    rw [hrest, feed_append, hfeed]
    rfl

end Assembler

end Multiplayer
