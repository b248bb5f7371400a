import Multiplayer.Bytes

/-!
# Sources of bytes

A source delivers a stream in pieces of its own choosing.  A read asks for some bytes and gets at
most that many; getting none means that nothing is there at the moment, not that the stream has
ended.  A source also knows a bound on what it can still deliver, so a reader that goes on as long
as bytes arrive comes to an end.
-/

namespace Multiplayer

/-- Something that bytes can be read from, with errors of type `ε`. -/
class ByteSource (σ : Type) (ε : outParam Type) where
  read : (wanted : Nat) → σ → Except ε Bytes × σ
  /-- A bound on the bytes still to come. -/
  pending : σ → Nat
  /-- No more arrive than were asked for. -/
  length_read_le {wanted : Nat} {s : σ} {bytes : Bytes} :
    (read wanted s).1 = .ok bytes → bytes.length ≤ wanted
  /-- Bytes that arrive are no longer to come. -/
  pending_read_lt {wanted : Nat} {s : σ} {bytes : Bytes} :
    (read wanted s).1 = .ok bytes → bytes ≠ [] → pending (read wanted s).2 < pending s

/-- A byte string delivers itself from the front and never fails. -/
instance : ByteSource Bytes Empty where
  read wanted bytes := (.ok (bytes.take wanted), bytes.drop wanted)
  pending bytes := bytes.length
  length_read_le h := by
    cases h
    exact List.length_take_le ..
  pending_read_lt {wanted bytes _} h hne := by
    cases h
    have : wanted ≠ 0 ∧ bytes ≠ [] := by
      constructor <;> (intro h0; apply hne; simp [h0])
    have := List.length_pos_iff.2 this.2
    simp only [List.length_drop]
    omega

end Multiplayer
