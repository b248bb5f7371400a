import Multiplayer.Attempt
import Multiplayer.Stream.ByteSource
import Multiplayer.Transport.Error

/-!
# Transports

A transport carries bytes both ways without waiting: a send may take only a part of what it is
offered, and a receive may find nothing.  Every operation may change the transport, also when it
fails.

* `deliver` sends until everything is taken or the transport takes nothing.
* `Inbound` is a transport as a source of bytes, with a bound on what is asked for at once.
-/

namespace Multiplayer

/-- Something done to a transport of type `τ` that gives an `α` or fails. -/
abbrev Link (τ α : Type) := Attempt TransportError τ α

/-- A carrier of bytes.  As with any source, what can still arrive is bounded. -/
class Transport (τ : Type) where
  connect : (host : String) → (port : UInt16) → Link τ Unit
  /-- Gives the transport time to do its own work. -/
  update : Link τ Unit
  /-- Offers bytes; the answer is how many were taken, from the front. -/
  send : (data : Bytes) → Link τ Nat
  receive : (wanted : Nat) → Link τ Bytes
  close : Link τ Unit
  /-- A bound on the bytes still to arrive. -/
  pending : τ → Nat
  /-- No more arrive than were asked for. -/
  length_receive_le {wanted : Nat} {t : τ} {bytes : Bytes} :
    ((receive wanted).run.run t).1 = .ok bytes → bytes.length ≤ wanted
  /-- Bytes that arrive are no longer to arrive. -/
  pending_receive_lt {wanted : Nat} {t : τ} {bytes : Bytes} :
    ((receive wanted).run.run t).1 = .ok bytes → bytes ≠ [] →
      pending ((receive wanted).run.run t).2 < pending t

namespace Transport

variable {τ : Type} [Transport τ]

/-- Sends all bytes, offering again what was not taken. -/
def deliver (data : Bytes) : Link τ Unit :=
  if _h : data = [] then return ()
  else do
    let taken ← send data
    if _h' : taken = 0 then throw (.writeStalled data.length)
    else deliver (data.drop taken)
termination_by data.length
decreasing_by
  have := List.length_pos_iff.2 _h
  simp only [List.length_drop]
  omega

end Transport

/-- A transport that is read in pieces of at most `chunk` bytes. -/
structure Inbound (τ : Type) where
  transport : τ
  chunk : Nat

instance {τ : Type} [Transport τ] : ByteSource (Inbound τ) TransportError where
  read wanted source :=
    let received := (Transport.receive (min wanted source.chunk)).run.run source.transport
    (received.1, { source with transport := received.2 })
  pending source := Transport.pending source.transport
  length_read_le h := Nat.le_trans (Transport.length_receive_le h) (Nat.min_le_left ..)
  pending_read_lt h hne := Transport.pending_receive_lt h hne

end Multiplayer
