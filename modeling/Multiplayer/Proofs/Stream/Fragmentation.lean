import Multiplayer.Proofs.Stream.Feed

/-!
# Independence of fragmentation

A stream may arrive in any pieces, with pauses and failures anywhere between them.  The events and
the state that come out of it are those of draining the whole stream at once.

* `Trickle` is a source that pauses, fails and cuts as it is told.
* `Assembler.Reachable`: the states that polls of any sources and resets lead to.
* `pollTimes_feed`: polls feed what the source has delivered so far.
* `pollTimes_eq_drain`: whatever the source did, what is still to come completes the events of the
  whole stream, and nothing is missing once everything has been delivered.
-/

namespace Multiplayer

/-! ## A source that does as it is told -/

/-- A source with a plan for its reads.  A number bounds what a read gives, and `none` makes it
fail; when the plan is over, reads give all that is wanted. -/
structure Trickle where
  bytes : Bytes
  plan : List (Option Nat)

namespace Trickle

/-- Reads as the plan has it. -/
def read (wanted : Nat) : Trickle → Except Unit Bytes × Trickle
  | ⟨bytes, []⟩ => (.ok (bytes.take wanted), ⟨bytes.drop wanted, []⟩)
  | ⟨bytes, none :: plan⟩ => (.error (), ⟨bytes, plan⟩)
  | ⟨bytes, some limit :: plan⟩ =>
    (.ok (bytes.take (min limit wanted)), ⟨bytes.drop (min limit wanted), plan⟩)

theorem bytes_of_read {wanted : Nat} {s : Trickle} {piece : Bytes}
    (h : (s.read wanted).1 = .ok piece) :
    s.bytes = piece ++ (s.read wanted).2.bytes ∧ piece.length ≤ wanted := by
  obtain ⟨bytes, _ | ⟨_ | limit, plan⟩⟩ := s
  · cases h
    exact ⟨(List.take_append_drop ..).symm, List.length_take_le ..⟩
  · cases h
  · cases h
    exact ⟨(List.take_append_drop ..).symm,
      Nat.le_trans (List.length_take_le ..) (Nat.min_le_right ..)⟩

instance : ByteSource Trickle Unit where
  read := read
  pending s := s.bytes.length
  length_read_le h := (bytes_of_read h).2
  pending_read_lt {_ s _} h hne := by
    have := congrArg List.length (bytes_of_read h).1
    have := List.length_pos_iff.2 hne
    simp only [List.length_append] at *
    omega

theorem delivers : ByteSource.Delivers Trickle.bytes where
  of_ok {wanted s s' piece} h := by
    have h : s.read wanted = (.ok piece, s') := h
    have := (bytes_of_read (congrArg Prod.fst h)).1
    rwa [h] at this
  of_error {wanted s s' e} h := by
    have h : s.read wanted = (.error e, s') := h
    obtain ⟨bytes, _ | ⟨_ | limit, plan⟩⟩ := s
    · cases h
    · cases h
      rfl
    · cases h

end Trickle

namespace Assembler

/-! ## Reachable states -/

/-- A state that polls and resets lead to from the start, whatever was polled. -/
inductive Reachable : Assembler → Prop where
  | empty : Reachable .empty
  | poll {σ ε : Type} [ByteSource σ ε] {a : Assembler} (h : Reachable a) (s : σ) :
    Reachable (a.poll s).2.1
  | reset {a : Assembler} (h : Reachable a) : Reachable a.reset

theorem Reachable.stage_partial {a : Assembler} (h : a.Reachable) : a.stage.Partial := by
  induction h with
  | empty => trivial
  | poll _ s ih => exact partial_poll ih s
  | reset => trivial

/-! ## Polling again and again -/

variable {σ ε : Type} [ByteSource σ ε]

/-- Polls a number of times, and goes on after polls that found nothing or failed: the events in
order, and what is left of assembler and source. -/
def pollTimes : Nat → Assembler → σ → List StreamEvent × Assembler × σ
  | 0, a, s => ([], a, s)
  | n + 1, a, s =>
    let (result, a', s') := a.poll s
    let (events, a'', s'') := pollTimes n a' s'
    (polledEvents result ++ events, a'', s'')

theorem pollTimes_succ (n : Nat) (a : Assembler) (s : σ) :
    pollTimes (n + 1) a s =
      (polledEvents (a.poll s).1 ++ (pollTimes n (a.poll s).2.1 (a.poll s).2.2).1,
        (pollTimes n (a.poll s).2.1 (a.poll s).2.2).2) := rfl

/-- Polls feed what the source has delivered until then. -/
theorem pollTimes_feed {remaining : σ → Bytes} (hd : ByteSource.Delivers remaining) (n : Nat)
    (a : Assembler) (s : σ) :
    ∃ taken, remaining s = taken ++ remaining (pollTimes n a s).2.2 ∧
      a.feed taken = ((pollTimes n a s).1, (pollTimes n a s).2.1) := by
  induction n generalizing a s with
  | zero => exact ⟨[], rfl, rfl⟩
  | succ n ih =>
    obtain ⟨first, hrest, hfirst⟩ := poll_feed hd a s
    obtain ⟨others, hrest', hothers⟩ := ih (a.poll s).2.1 (a.poll s).2.2
    refine ⟨first ++ others, ?_, ?_⟩
    · rw [pollTimes_succ, hrest, hrest', List.append_assoc]
    · rw [pollTimes_succ, feed_append, hfirst, hothers]

/-- A source that has delivered everything gives no further event and changes nothing. -/
theorem poll_of_remaining_nil {remaining : σ → Bytes} (hd : ByteSource.Delivers remaining)
    (a : Assembler) {s : σ} (hall : remaining s = []) :
    polledEvents (a.poll s).1 = [] ∧ (a.poll s).2.1 = a := by
  obtain ⟨taken, hrest, hfeed⟩ := poll_feed hd a s
  rw [hall, List.nil_eq, List.append_eq_nil_iff] at hrest
  rw [hrest.1] at hfeed
  exact ⟨(congrArg Prod.fst hfeed).symm, (congrArg Prod.snd hfeed).symm⟩

/-- **Independence of fragmentation and failures.**  At every moment the events so far and those of
what is still to come are the events of draining the whole stream.  Once everything has been
delivered, events and state are the same, and no further poll adds anything. -/
theorem pollTimes_eq_drain {a : Assembler} (ha : a.Reachable) {remaining : σ → Bytes}
    (hd : ByteSource.Delivers remaining) (s : σ) (n : Nat) :
    let run := pollTimes n a s
    let whole := a.drain (remaining s)
    let rest := run.2.1.drain (remaining run.2.2)
    (run.1 ++ rest.1 = whole.1 ∧ rest.2.2.1 = whole.2.2.1) ∧
      (remaining run.2.2 = [] →
        run.1 = whole.1 ∧ run.2.1 = whole.2.2.1 ∧
          polledEvents (run.2.1.poll run.2.2).1 = [] ∧ (run.2.1.poll run.2.2).2.1 = run.2.1) := by
  obtain ⟨taken, hstream, hfeed⟩ := pollTimes_feed hd n a s
  have hpartial := ha.stage_partial
  have hpartial' : (pollTimes n a s).2.1.stage.Partial := by
    have := partial_feed hpartial taken
    rwa [hfeed] at this
  simp only [drain_bytes hpartial, drain_bytes hpartial', hstream, feed_append, hfeed, true_and]
  intro hall
  rw [hall, feed_nil, List.append_nil]
  exact ⟨rfl, rfl, poll_of_remaining_nil hd _ hall⟩

theorem pollTimes_eq_drain_trickle :
    let a := (Assembler.empty.poll ([0x0c, 0x05, 1, 2] : Bytes)).2.1.reset
    let s : Trickle :=
      ⟨[0x39, 0, 3, 1, 2, 0xaa, 0x02], [some 1, none, some 0, some 5, some 1, some 2]⟩
    a.Reachable ∧ ByteSource.Delivers Trickle.bytes ∧ (pollTimes 6 a s).2.2.bytes = [] ∧
      (pollTimes 6 a s).1 = (a.drain s.bytes).1 ∧
      (pollTimes 6 a s).2.1 = (a.drain s.bytes).2.2.1 := by
  intro a s
  have ha : a.Reachable := .reset (.poll .empty _)
  have hall : (pollTimes 6 a s).2.2.bytes = [] := by
    dsimp only [a, s]
    decide +kernel
  obtain ⟨_, hend⟩ := pollTimes_eq_drain ha Trickle.delivers s 6
  exact ⟨ha, Trickle.delivers, hall, (hend hall).1, (hend hall).2.1⟩

end Assembler

end Multiplayer
