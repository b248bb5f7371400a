import Multiplayer.Proofs.Stream.Feed
import Multiplayer.Transport.Pipe

/-!
# The stream up to its first teardown

Whoever handles a stream event by event stops at the first event that ends the session, and the
bytes behind that one stay where they are.

* `Assembler.first`: bytes one by one until an event is complete.
* `poll_pipe`: a poll of a pipe does that, whatever its limits are.
* `Assembler.untilTeardown`: event by event until one ends the session.
* `feed_untilTeardown`: what that takes, and that nothing shorter contains a teardown.
-/

namespace Multiplayer

namespace StreamEvent

/-- Whether an event ends the session. -/
def isTeardown : StreamEvent → Bool
  | .teardown _ => true
  | _ => false

/-- The events up to the first that ends the session, which is among them. -/
def throughTeardown : List StreamEvent → List StreamEvent
  | [] => []
  | event :: events => if event.isTeardown then [event] else event :: throughTeardown events

end StreamEvent

namespace Assembler

/-! ## One event -/

/-- Takes bytes until an event is complete: the event, the state after it, and the bytes left. -/
def first : Assembler → Bytes → Option StreamEvent × Assembler × Bytes
  | a, [] => (none, a, [])
  | a, b :: bytes =>
    match a.accept b [] with
    | (some event, a') => (some event, a', bytes)
    | (none, a') => a'.first bytes

/-- A portion that completes an event leaves what follows it, and another one is only a start. -/
theorem first_portion {a : Assembler} {b : UInt8} {more : Bytes}
    (hlength : more.length < a.stage.wanted) (rest : Bytes) :
    a.first (b :: more ++ rest) =
      match a.accept b more with
      | (some event, a') => (some event, a', rest)
      | (none, a') => a'.first rest := by
  induction more generalizing a b with
  | nil => rfl
  | cons c more ih =>
    rw [List.length_cons] at hlength
    have hone : 1 < a.stage.wanted := by omega
    obtain ⟨hnone, hwanted, haccept⟩ := accept_cons hone b c more
    have hfirst : a.first (b :: (c :: more ++ rest)) =
        (a.accept b []).2.first (c :: more ++ rest) := by
      rcases hone : a.accept b [] with ⟨event?, a'⟩
      rw [hone] at hnone
      subst hnone
      simp only [first, hone]
    rw [List.cons_append, hfirst, ih (by omega), haccept]

/-! ## Polling a pipe -/

theorem limited_pos {limit : Option Nat} (hlimit : limit ≠ some 0) {n : Nat} (hn : 0 < n) :
    0 < Pipe.limited limit n := by
  cases limit with
  | none => exact hn
  | some limit =>
    have hpos : limit ≠ 0 := by
      intro hzero
      apply hlimit
      rw [hzero]
    simp only [Pipe.limited]
    omega

/-- A read fails at the end of a pipe that is hung up, gives nothing at the end of another one, and
gives some bytes from the front of a pipe that has any. -/
theorem read_pipe_cases {pipe : Pipe} (hlimit : pipe.readLimit ≠ some 0) {chunk wanted : Nat}
    (hchunk : 0 < chunk) (hwanted : 0 < wanted) :
    let read := ByteSource.read wanted (⟨pipe, chunk⟩ : Inbound Pipe)
    (pipe.inbound = [] ∧ pipe.hungUp = true ∧
        read = (.error (.connectionClosed "peer hung up"), ⟨{ pipe with inbound := [] }, chunk⟩)) ∨
      (pipe.inbound = [] ∧ pipe.hungUp = false ∧
        read = (.ok [], ⟨{ pipe with inbound := [] }, chunk⟩)) ∨
      ∃ b more rest, pipe.inbound = b :: more ++ rest ∧
        read = (.ok (b :: more), ⟨{ pipe with inbound := rest }, chunk⟩) := by
  intro read
  have hread : read = (((Pipe.receive (min wanted chunk)).run.run pipe).1,
    ⟨((Pipe.receive (min wanted chunk)).run.run pipe).2, chunk⟩) := rfl
  obtain ⟨n, hn⟩ : ∃ n, Pipe.limited pipe.readLimit (min wanted chunk) = n + 1 :=
    Nat.exists_eq_add_one.2 (limited_pos hlimit (by omega))
  simp only [Pipe.receive, ExceptT.run, StateT.run, hn] at hread
  obtain ⟨inbound, outbound, endpoint, readLimit, acceptLimit, attempts, updates, closed, hungUp⟩ :=
    pipe
  cases inbound with
  | nil =>
    cases hungUp with
    | true => exact .inl ⟨rfl, rfl, hread⟩
    | false => exact .inr (.inl ⟨rfl, rfl, hread⟩)
  | cons b inbound =>
    exact .inr (.inr ⟨b, inbound.take n, inbound.drop n, by simp, hread⟩)

/-- A poll of a pipe takes the bytes of one event if they are there, and all bytes otherwise. -/
theorem poll_pipe {a : Assembler} (ha : a.stage.Partial) {pipe : Pipe}
    (hlimit : pipe.readLimit ≠ some 0) {chunk : Nat} (hchunk : 0 < chunk) :
    a.poll (⟨pipe, chunk⟩ : Inbound Pipe) =
      (match (a.first pipe.inbound).1 with
        | some event => .ok (some event)
        | none =>
          if pipe.hungUp then .error (.connectionClosed "peer hung up") else .ok none,
        (a.first pipe.inbound).2.1,
        ⟨{ pipe with inbound := (a.first pipe.inbound).2.2 }, chunk⟩) := by
  generalize hsource : (⟨pipe, chunk⟩ : Inbound Pipe) = source
  fun_induction poll a source generalizing pipe with
  | case1 a source e source' hread =>
    subst hsource
    rcases read_pipe_cases hlimit hchunk ha.wanted_pos with
      ⟨hend, hhung, hfail⟩ | ⟨-, -, hnone⟩ | ⟨_, _, _, -, hsome⟩
    · rw [hfail] at hread
      cases hread
      simp [hend, hhung, first]
    · simp [hnone] at hread
    · simp [hsome] at hread
  | case2 a source source' hread =>
    subst hsource
    rcases read_pipe_cases hlimit hchunk ha.wanted_pos with
      ⟨-, -, hfail⟩ | ⟨hend, hhung, hnone⟩ | ⟨_, _, _, -, hsome⟩
    · simp [hfail] at hread
    · rw [hnone] at hread
      cases hread
      simp [hend, hhung, first]
    · simp [hsome] at hread
  | case3 a source b more source' hread event a' haccept =>
    subst hsource
    have hlength := ByteSource.length_read_le (congrArg Prod.fst hread)
    rcases read_pipe_cases hlimit hchunk ha.wanted_pos with
      ⟨-, -, hfail⟩ | ⟨-, -, hnone⟩ | ⟨_, _, rest, hinbound, hsome⟩
    · simp [hfail] at hread
    · simp [hnone] at hread
    · rw [hsome] at hread
      cases hread
      rw [hinbound, first_portion hlength, haccept]
  | case4 a source b more source' hread a' haccept ih =>
    subst hsource
    have hlength := ByteSource.length_read_le (congrArg Prod.fst hread)
    have hpartial := partial_accept ha b more
    rw [haccept] at hpartial
    rcases read_pipe_cases hlimit hchunk ha.wanted_pos with
      ⟨-, -, hfail⟩ | ⟨-, -, hnone⟩ | ⟨_, _, rest, hinbound, hsome⟩
    · simp [hfail] at hread
    · simp [hnone] at hread
    · rw [hsome] at hread
      cases hread
      rw [hinbound, first_portion hlength, haccept]
      exact @ih hpartial { pipe with inbound := rest } hlimit rfl

/-! ## Up to a teardown -/

/-- Takes bytes until an event ends the session: the events, the state, and the bytes left. -/
def untilTeardown : Assembler → Bytes → List StreamEvent × Assembler × Bytes
  | a, [] => ([], a, [])
  | a, b :: bytes =>
    match a.accept b [] with
    | (some event, a') =>
      if event.isTeardown then ([event], a', bytes)
      else
        let (events, rest) := a'.untilTeardown bytes
        (event :: events, rest)
    | (none, a') => a'.untilTeardown bytes

theorem untilTeardown_eq_first (a : Assembler) (bytes : Bytes) :
    a.untilTeardown bytes =
      match a.first bytes with
      | (none, a', rest) => ([], a', rest)
      | (some event, a', rest) =>
        if event.isTeardown then ([event], a', rest)
        else (event :: (a'.untilTeardown rest).1, (a'.untilTeardown rest).2) := by
  induction bytes generalizing a with
  | nil => rfl
  | cons b bytes ih =>
    rcases haccept : a.accept b [] with ⟨_ | event, a'⟩
    · simp only [untilTeardown, first, haccept]
      exact ih a'
    · simp only [untilTeardown, first, haccept]

theorem events_untilTeardown (a : Assembler) (bytes : Bytes) :
    (a.untilTeardown bytes).1 = StreamEvent.throughTeardown (a.feed bytes).1 := by
  induction bytes generalizing a with
  | nil => rfl
  | cons b bytes ih =>
    rw [feed_cons]
    rcases haccept : a.accept b [] with ⟨_ | event, a'⟩
    · simp only [untilTeardown, haccept]
      exact ih a'
    · simp only [untilTeardown, haccept, Option.toList_some, List.singleton_append,
        StreamEvent.throughTeardown]
      split
      · rfl
      · rw [ih a']

/-- Bytes are left only behind a teardown. -/
theorem teardown_of_rest {a : Assembler} {bytes : Bytes}
    (h : (a.untilTeardown bytes).2.2 ≠ []) :
    ∃ event ∈ (a.untilTeardown bytes).1, event.isTeardown := by
  induction bytes generalizing a with
  | nil => exact absurd rfl h
  | cons b bytes ih =>
    rcases haccept : a.accept b [] with ⟨_ | event, a'⟩
    · simp only [untilTeardown, haccept] at h ⊢
      exact ih h
    · simp only [untilTeardown, haccept] at h ⊢
      split at h
      · rename_i hteardown
        exact ⟨event, by simp [hteardown], hteardown⟩
      · rename_i hgoes
        obtain ⟨last, hlast, hteardown⟩ := ih h
        exact ⟨last, by simp [hgoes, hlast], hteardown⟩

/-- The bytes that are taken give the events, and no shorter part of them gives a teardown. -/
theorem feed_untilTeardown (a : Assembler) (bytes : Bytes) :
    ∃ taken, bytes = taken ++ (a.untilTeardown bytes).2.2 ∧
      a.feed taken = ((a.untilTeardown bytes).1, (a.untilTeardown bytes).2.1) ∧
      ∀ part, part <+: taken → part ≠ taken → ∀ event ∈ (a.feed part).1, ¬ event.isTeardown := by
  induction bytes generalizing a with
  | nil =>
    refine ⟨[], rfl, rfl, ?_⟩
    intro part hpart hshorter
    exact absurd (List.prefix_nil.1 hpart) hshorter
  | cons b bytes ih =>
    rcases haccept : a.accept b [] with ⟨event?, a'⟩
    by_cases hteardown : ∃ event, event? = some event ∧ event.isTeardown
    · obtain ⟨event, rfl, hteardown⟩ := hteardown
      refine ⟨[b], ?_, ?_, ?_⟩
      · simp [untilTeardown, haccept, hteardown]
      · simp [untilTeardown, feed_cons, haccept, hteardown]
      · intro part hpart hshorter
        cases part with
        | nil => simp
        | cons c part =>
          obtain ⟨rfl, hrest⟩ := List.cons_prefix_cons.1 hpart
          rw [List.prefix_nil.1 hrest] at hshorter
          exact absurd rfl hshorter
    · obtain ⟨taken, hbytes, hfeed, hminimal⟩ := ih a'
      have hstep : a.untilTeardown (b :: bytes) =
          (event?.toList ++ (a'.untilTeardown bytes).1, (a'.untilTeardown bytes).2) := by
        cases event? with
        | none => simp [untilTeardown, haccept]
        | some event =>
          have hgoes : ¬ event.isTeardown := fun h => hteardown ⟨event, rfl, h⟩
          simp [untilTeardown, haccept, hgoes]
      refine ⟨b :: taken, ?_, ?_, ?_⟩
      · rw [hstep, List.cons_append, ← hbytes]
      · rw [hstep, feed_cons, haccept, hfeed]
      · intro part hpart hshorter event hevent
        cases part with
        | nil => simp at hevent
        | cons c part =>
          obtain ⟨rfl, hrest⟩ := List.cons_prefix_cons.1 hpart
          rw [feed_cons, haccept, List.mem_append, Option.mem_toList] at hevent
          rcases hevent with hfirst | hlater
          · exact fun h => hteardown ⟨event, hfirst, h⟩
          · have hshort : part ≠ taken := fun h => hshorter (by rw [h])
            exact hminimal part hrest hshort event hlater

/-- Without a teardown everything is taken. -/
theorem untilTeardown_eq_feed {a : Assembler} {bytes : Bytes}
    (h : ∀ event ∈ (a.feed bytes).1, ¬ event.isTeardown) :
    a.untilTeardown bytes = ((a.feed bytes).1, (a.feed bytes).2, []) := by
  obtain ⟨taken, hbytes, hfeed, -⟩ := feed_untilTeardown a bytes
  have hrest : (a.untilTeardown bytes).2.2 = [] := by
    by_cases hne : (a.untilTeardown bytes).2.2 = []
    · exact hne
    · obtain ⟨event, hevent, hteardown⟩ := teardown_of_rest hne
      refine absurd hteardown (h event ?_)
      rw [hbytes, feed_append, hfeed]
      exact List.mem_append_left _ hevent
  rw [hrest, List.append_nil] at hbytes
  rw [← hbytes] at hfeed
  rw [hfeed]
  exact Prod.ext rfl (Prod.ext rfl hrest)

end Assembler

end Multiplayer
