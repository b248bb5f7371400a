import Multiplayer.Proofs.Attempt
import Multiplayer.Transport.Transport

/-!
# What delivering keeps and shows

Delivering is a sequence of sends, so what each send does to a transport decides what delivering
does to it.

* `keeps_deliver`: delivering keeps what each send keeps.
* `Transport.Mirrors`: a view of one kind of transport is another kind of transport.
* `Transport.Keeps`: what all uses of a transport keep.
* `mirrors_deliver`, `blind_deliver`: delivering is mirrored, or blind to a change, if each send is.
-/

namespace Multiplayer.Transport

variable {τ τ' : Type} [Transport τ] [Transport τ']

/-- Delivering keeps whatever each single send keeps. -/
theorem keeps_deliver {P : τ → Prop} (hsend : ∀ data, (send data : Link τ Nat).Keeps P)
    (data : Bytes) : (deliver data : Link τ Unit).Keeps P := by
  induction data using deliver.induct with
  | case1 =>
    rw [deliver, dif_pos rfl]
    exact .pure _
  | case2 data hdata ih =>
    rw [deliver, dif_neg hdata]
    refine (hsend data).bind fun taken => ?_
    split
    · exact .throw _
    · rename_i htaken
      exact ih taken htaken

theorem mirrors_deliver {view : τ → τ'}
    (hsend : ∀ data, Attempt.Mirrors view (send data : Link τ Nat) (send data : Link τ' Nat))
    (data : Bytes) :
    Attempt.Mirrors view (deliver data : Link τ Unit) (deliver data : Link τ' Unit) := by
  induction data using deliver.induct with
  | case1 =>
    rw [deliver, dif_pos rfl, deliver, dif_pos rfl]
    exact .pure _
  | case2 data hdata ih =>
    rw [deliver, dif_neg hdata, deliver, dif_neg hdata]
    refine (hsend data).bind fun taken => ?_
    split
    · exact .throw _
    · rename_i htaken
      exact ih taken htaken

/-- Delivering is blind to whatever each single send is blind to. -/
theorem blind_deliver {f : τ → τ} (hsend : ∀ data, (send data : Link τ Nat).Blind f)
    (data : Bytes) : (deliver data : Link τ Unit).Blind f :=
  mirrors_deliver hsend data

/-- What a view shows of a transport is a transport that does the same. -/
structure Mirrors (view : τ → τ') : Prop where
  connect : ∀ host port, Attempt.Mirrors view
    (connect host port : Link τ Unit) (connect host port : Link τ' Unit)
  update : Attempt.Mirrors view (update : Link τ Unit) (update : Link τ' Unit)
  send : ∀ data, Attempt.Mirrors view (send data : Link τ Nat) (send data : Link τ' Nat)
  receive : ∀ wanted, Attempt.Mirrors view
    (receive wanted : Link τ Bytes) (receive wanted : Link τ' Bytes)
  close : Attempt.Mirrors view (close : Link τ Unit) (close : Link τ' Unit)

/-- A transport shows itself. -/
theorem Mirrors.refl : Mirrors fun t : τ => t :=
  ⟨fun _ _ _ => rfl, fun _ => rfl, fun _ _ => rfl, fun _ _ => rfl, fun _ => rfl⟩

/-- Does something that keeps a property to a transport with that property. -/
def restricted {α : Type} {P : τ → Prop} {link : Link τ α} (h : link.Keeps P) :
    Link { t : τ // P t } α :=
  fun t => ((link.run.run t.1).1, ⟨(link.run.run t.1).2, h t.1 t.2⟩)

/-- Every use of a transport keeps the property. -/
structure Keeps (P : τ → Prop) : Prop where
  connect : ∀ host port, (connect host port : Link τ Unit).Keeps P
  update : (update : Link τ Unit).Keeps P
  send : ∀ data, (send data : Link τ Nat).Keeps P
  receive : ∀ wanted, (receive wanted : Link τ Bytes).Keeps P
  close : (close : Link τ Unit).Keeps P

/-- The transports with a property, as transports of their own. -/
abbrev Keeps.restrict {P : τ → Prop} (h : Keeps P) : Transport { t : τ // P t } where
  connect host port := restricted (h.connect host port)
  update := restricted h.update
  send data := restricted (h.send data)
  receive wanted := restricted (h.receive wanted)
  close := restricted h.close
  pending t := pending t.1
  length_receive_le {_ t _} hreceive := length_receive_le (t := t.1) hreceive
  pending_receive_lt {_ t _} hreceive hne := pending_receive_lt (t := t.1) hreceive hne

theorem Keeps.mirrors {P : τ → Prop} (h : Keeps P) :
    @Mirrors { t : τ // P t } τ h.restrict _ Subtype.val :=
  @Mirrors.mk _ _ h.restrict _ _ (fun _ _ _ => rfl) (fun _ => rfl) (fun _ _ => rfl)
    (fun _ _ => rfl) fun _ => rfl

end Multiplayer.Transport
