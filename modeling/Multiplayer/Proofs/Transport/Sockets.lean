import Multiplayer.Proofs.Transport.Delivery
import Multiplayer.Transport.Socket

/-!
# The queue of a socket

What the stream of a socket does not take waits in the queue and goes out later.

* `Network.Tells`: a view of a network that has the bytes its streams have taken, in order.
* `Socket.keeps_bounded`: whatever is done to a socket, no more is kept than it is made for.
* `Socket.sent_in_order`: what was sent has gone out or is kept, in order, as long as nothing fails.
* `Sluice` is a network whose stream takes what it is told to take.
-/

namespace Multiplayer

variable {ν σ : Type} [Network ν σ]

namespace Network

/-- The view has the bytes that the streams of a network have taken. -/
structure Tells (view : ν → Bytes) : Prop where
  taken {stream : σ} {data : Bytes} {network : ν} {n : Nat} :
    ((offer stream data).run.run network).1 = .ok n →
      view ((offer stream data).run.run network).2 = view network ++ data.take n
  halted {stream : σ} {data : Bytes} {network : ν} {halt : Halt} :
    ((offer stream data).run.run network).1 = .error halt →
      view ((offer stream data).run.run network).2 = view network

/-- What is left of a write is the end of it. -/
theorem write_suffix {stream : σ} {data rest : Bytes} {network : ν}
    (h : (write stream data network).1 = .ok rest) : rest <:+ data := by
  fun_induction write stream data network with
  | case1 =>
    cases h
    exact List.suffix_refl _
  | case2 => cases h
  | case3 data network hdata n network' hoffer ih => exact (ih h).trans (List.drop_suffix ..)
  | case4 =>
    cases h
    exact List.suffix_refl _
  | case5 data network hdata network' hoffer ih => exact ih h
  | case6 => cases h

/-- What the stream has taken and what is left are what was to be written. -/
theorem Tells.write {view : ν → Bytes} (h : Tells view) {stream : σ} {data rest : Bytes}
    {network : ν} (hrest : (write stream data network).1 = .ok rest) :
    view (Network.write stream data network).2 ++ rest = view network ++ data := by
  fun_induction Network.write stream data network with
  | case1 =>
    cases hrest
    rfl
  | case2 => cases hrest
  | case3 data network hdata n network' hoffer ih =>
    have htaken := h.taken (congrArg Prod.fst hoffer)
    rw [hoffer] at htaken
    rw [ih hrest, htaken, List.append_assoc, List.take_append_drop]
  | case4 data network hdata network' hoffer =>
    have hhalted := h.halted (congrArg Prod.fst hoffer)
    rw [hoffer] at hhalted
    cases hrest
    rw [hhalted]
  | case5 data network hdata network' hoffer ih =>
    have hhalted := h.halted (congrArg Prod.fst hoffer)
    rw [hoffer] at hhalted
    rw [ih hrest, hhalted]
  | case6 => cases hrest

end Network

namespace Socket

/-! ## The limit of the queue -/

/-- No more is kept than the socket is made for. -/
def Bounded (s : Socket ν σ) : Prop := s.unsent.length ≤ s.maxUnsent

theorem keeps_flush : (flush : Link (Socket ν σ) Unit).Keeps Bounded := by
  intro s h
  simp only [flush, ExceptT.run, StateT.run]
  split
  · exact h
  · split
    · rename_i hwrite
      exact Nat.le_trans (Network.write_suffix (congrArg Prod.fst hwrite)).length_le h
    · exact h

theorem keeps_send (data : Bytes) : (send data : Link (Socket ν σ) Nat).Keeps Bounded := by
  refine Attempt.Keeps.get_bind fun s h => ?_
  split
  · exact h
  · refine Attempt.Keeps.bind (.set ?_) (fun _ => keeps_flush.bind fun _ => .pure _) s h
    simp only [Bounded, List.length_append, List.length_take] at h ⊢
    omega

theorem keeps_update : (update : Link (Socket ν σ) Unit).Keeps Bounded := by
  intro s h
  unfold update
  rw [Attempt.run_bind, Attempt.run_get]
  dsimp only
  split
  · exact h
  · exact keeps_flush s h

theorem keeps_close : (close : Link (Socket ν σ) Unit).Keeps Bounded := by
  have hgone : (modify fun s => { s with network := s.released s.network, stream := none } :
      Link (Socket ν σ) Unit).Keeps Bounded := .modify fun _ h => h
  intro s h
  unfold close
  rw [Attempt.run_bind, Attempt.run_get]
  dsimp only
  split
  · exact (keeps_flush.tryCatch fun _ => .pure _).bind (fun _ => hgone) s h
  · exact hgone s h

theorem keeps_bounded : Transport.Keeps (Bounded : Socket ν σ → Prop) where
  connect host port := by
    intro s h
    simp only [Transport.connect, connect, ExceptT.run, StateT.run]
    split
    · exact Nat.zero_le _
    · exact h
  update := keeps_update
  send := keeps_send
  receive wanted := by
    intro s h
    simp only [Transport.receive, receive, ExceptT.run, StateT.run]
    split <;> exact h
  close := keeps_close

/-! ## The order of what was sent -/

variable {view : ν → Bytes}

/-- What was sent so far: it has gone out, or it is kept. -/
def sent (view : ν → Bytes) (s : Socket ν σ) : Bytes := view s.network ++ s.unsent

theorem sent_flush (htells : Network.Tells view) {s : Socket ν σ}
    (h : (flush.run.run s).1 = .ok ()) : (flush.run.run s).2.sent view = s.sent view := by
  rcases hstream : s.stream with _ | stream
  · simp [flush, hstream, ExceptT.run, StateT.run] at h
  · simp only [flush, hstream, ExceptT.run, StateT.run] at h ⊢
    split at h
    · rename_i rest network hwrite
      have hall := htells.write (congrArg Prod.fst hwrite)
      rw [hwrite] at hall
      exact hall
    · cases h

theorem run_send_of_connected {s : Socket ν σ} (hstream : ¬ s.stream.isNone) (data : Bytes) :
    (send data).run.run s =
      match flush.run.run { s with
        unsent := s.unsent ++ data.take (s.maxUnsent - s.unsent.length) } with
      | (.ok (), s') => (.ok (data.take (s.maxUnsent - s.unsent.length)).length, s')
      | (.error e, s') => (.error e, s') := by
  unfold send
  rw [Attempt.run_bind, Attempt.run_get]
  dsimp only
  rw [if_neg hstream, Attempt.run_bind, Attempt.run_set]
  dsimp only
  rw [Attempt.run_bind]
  rcases flush.run.run _ with ⟨e | ⟨⟩, s'⟩ <;> rfl

/-- A send takes what there is room for, and puts it behind what was sent before. -/
theorem sent_send (htells : Network.Tells view) {data : Bytes} {s : Socket ν σ} {n : Nat}
    (h : ((send data).run.run s).1 = .ok n) :
    n = min (s.maxUnsent - s.unsent.length) data.length ∧
      ((send data).run.run s).2.sent view = s.sent view ++ data.take n := by
  by_cases hstream : s.stream.isNone
  · unfold send at h
    rw [Attempt.run_bind, Attempt.run_get] at h
    dsimp only at h
    rw [if_pos hstream] at h
    cases h
  rw [run_send_of_connected hstream] at h ⊢
  have hflush := sent_flush htells (s := { s with
    unsent := s.unsent ++ data.take (s.maxUnsent - s.unsent.length) })
  generalize flush.run.run { s with
    unsent := s.unsent ++ data.take (s.maxUnsent - s.unsent.length) } = run at h hflush ⊢
  rcases run with ⟨e | ⟨⟩, s'⟩
  · cases h
  · obtain rfl := Except.ok.inj h
    refine ⟨List.length_take .., ?_⟩
    rw [hflush rfl, List.length_take, ← List.take_eq_take_min, sent, sent, List.append_assoc]

/-- **What was delivered has gone out or is kept, in order.** -/
theorem sent_in_order (htells : Network.Tells view) (data : Bytes) {s : Socket ν σ}
    (h : ((Transport.deliver data).run.run s).1 = .ok ()) :
    ((Transport.deliver data).run.run s).2.sent view = s.sent view ++ data := by
  induction data using Transport.deliver.induct generalizing s with
  | case1 =>
    rw [Transport.deliver, dif_pos rfl]
    exact (List.append_nil _).symm
  | case2 data hdata ih =>
    rw [Transport.deliver, dif_neg hdata, Attempt.run_bind] at h ⊢
    rcases hsend : (Transport.send data).run.run s with ⟨e | n, s'⟩
    · rw [hsend] at h
      cases h
    rw [hsend] at h
    by_cases hn : n = 0
    · simp only [hn, dite_true] at h
      cases h
    · simp only [hn, dite_false] at h ⊢
      have hsent := (sent_send htells (congrArg Prod.fst hsend)).2
      rw [show (send data).run.run s = _ from hsend] at hsent
      rw [ih n hn h, hsent, List.append_assoc, List.take_append_drop]

end Socket

/-! ## A stream with a plan -/

/-- A network with one stream on which nothing arrives, and a plan for the attempts to write.  A
number bounds what the stream takes; when the plan is over, it takes everything. -/
structure Sluice where
  taken : Bytes
  plan : List (Except Halt Nat)

namespace Sluice

/-- Takes bytes as the plan has it. -/
def offer (data : Bytes) : Sluice → Except Halt Nat × Sluice
  | ⟨taken, []⟩ => (.ok data.length, ⟨taken ++ data, []⟩)
  | ⟨taken, .error halt :: plan⟩ => (.error halt, ⟨taken, plan⟩)
  | ⟨taken, .ok limit :: plan⟩ => (.ok (min limit data.length), ⟨taken ++ data.take limit, plan⟩)

instance : Network Sluice Unit where
  dial _ _ := return ()
  offer _ data := offer data
  fetch _ _ := throw .notReady
  hangUp _ sluice := sluice
  pending _ := 0
  interruptions sluice := sluice.plan.length
  interruptions_offer_lt {_ data sluice} h := by
    have h : (sluice.offer data).1 = .error .interrupted := h
    obtain ⟨taken, _ | ⟨_ | limit, plan⟩⟩ := sluice
    · cases h
    · exact Nat.lt_add_one _
    · cases h
  interruptions_fetch_lt h := by cases h
  length_fetch_le h := by cases h
  pending_fetch_lt h := by cases h
  pending_fetch_le h := by cases h

theorem tells : Network.Tells taken where
  taken {_ data sluice n} h := by
    have h : (sluice.offer data).1 = .ok n := h
    change (sluice.offer data).2.taken = _
    obtain ⟨taken, _ | ⟨_ | limit, plan⟩⟩ := sluice
    · cases h
      rw [List.take_length]
      rfl
    · cases h
    · cases h
      rw [← List.take_eq_take_min]
      rfl
  halted {_ data sluice halt} h := by
    have h : (sluice.offer data).1 = .error halt := h
    obtain ⟨taken, _ | ⟨_ | limit, plan⟩⟩ := sluice
    · cases h
    · rfl
    · cases h

end Sluice

/-- A queue of four places takes four of five bytes, and one of them is kept. -/
example :
    Prod.map id (fun s => (s.network.taken, s.unsent)) ((Socket.send [1, 2, 3, 4, 5]).run.run
      (⟨⟨[], [.ok 2, .error .interrupted, .ok 1, .error .notReady]⟩, some (), [], 4⟩ :
        Socket Sluice Unit)) = (.ok 4, [1, 2, 3], [4]) := by cbv

end Multiplayer
