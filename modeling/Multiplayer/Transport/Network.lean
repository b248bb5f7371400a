import Multiplayer.Attempt
import Multiplayer.Bytes
import Multiplayer.Transport.Error

/-!
# Streams of a network

A network opens streams, and a stream carries bytes both ways without waiting.  An attempt to use a
stream is halted if the stream is not ready, if something else comes in between, or for good.

* `Network.write` writes as much as a stream takes now, and `Network.read` reads what is there now.
  Both try again after an interruption.
* `Unreachable` is a network in which nobody listens.
-/

namespace Multiplayer

/-- Why an attempt to use a stream has moved no bytes. -/
inductive Halt where
  | notReady
  /-- Something else came in between, and the attempt can be made again at once. -/
  | interrupted
  | failed (cause : String)
deriving DecidableEq, Repr

/-- A network with streams of type `σ`.  What can still arrive is bounded, and so are the
interruptions that can still come. -/
class Network (ν : Type) (σ : outParam Type) where
  /-- Opens a stream to a host, or says why there is none. -/
  dial : (host : String) → (port : UInt16) → Attempt String ν σ
  /-- Offers bytes to a stream; the answer is how many were taken, from the front. -/
  offer : (stream : σ) → (data : Bytes) → Attempt Halt ν Nat
  /-- Gets bytes from a stream, none if the other end has ended it. -/
  fetch : (stream : σ) → (wanted : Nat) → Attempt Halt ν Bytes
  /-- Ends a stream. -/
  hangUp : (stream : σ) → ν → ν
  /-- A bound on the bytes still to arrive. -/
  pending : ν → Nat
  /-- A bound on the interruptions still to come. -/
  interruptions : ν → Nat
  interruptions_offer_lt {stream : σ} {data : Bytes} {network : ν} :
    ((offer stream data).run.run network).1 = .error .interrupted →
      interruptions ((offer stream data).run.run network).2 < interruptions network
  interruptions_fetch_lt {stream : σ} {wanted : Nat} {network : ν} :
    ((fetch stream wanted).run.run network).1 = .error .interrupted →
      interruptions ((fetch stream wanted).run.run network).2 < interruptions network
  /-- No more arrive than were asked for. -/
  length_fetch_le {stream : σ} {wanted : Nat} {network : ν} {bytes : Bytes} :
    ((fetch stream wanted).run.run network).1 = .ok bytes → bytes.length ≤ wanted
  /-- Bytes that arrive are no longer to arrive. -/
  pending_fetch_lt {stream : σ} {wanted : Nat} {network : ν} {bytes : Bytes} :
    ((fetch stream wanted).run.run network).1 = .ok bytes → bytes ≠ [] →
      pending ((fetch stream wanted).run.run network).2 < pending network
  /-- No more are to arrive after an interruption than before it. -/
  pending_fetch_le {stream : σ} {wanted : Nat} {network : ν} :
    ((fetch stream wanted).run.run network).1 = .error .interrupted →
      pending ((fetch stream wanted).run.run network).2 ≤ pending network

namespace Network

variable {ν σ : Type} [Network ν σ]

/-- Writes until everything is taken or the stream is not ready for more, and gives what is left. -/
def write (stream : σ) (data : Bytes) (network : ν) : Except TransportError Bytes × ν :=
  if _h : data = [] then (.ok [], network)
  else
    match _hoffer : (offer stream data).run.run network with
    | (.ok 0, network') => (.error (.connectionClosed "socket refused further writes"), network')
    | (.ok (n + 1), network') => write stream (data.drop (n + 1)) network'
    | (.error .notReady, network') => (.ok data, network')
    | (.error .interrupted, network') => write stream data network'
    | (.error (.failed cause), network') => (.error (.sendFailed cause), network')
termination_by (data.length, interruptions network)
decreasing_by
  · have := List.length_pos_iff.2 _h
    refine Prod.Lex.left _ _ ?_
    rw [List.length_drop]
    omega
  · have hless := interruptions_offer_lt (congrArg Prod.fst _hoffer)
    rw [_hoffer] at hless
    exact Prod.Lex.right _ hless

/-- Reads what is there.  The stream has ended if there is nothing although something is wanted. -/
def read (stream : σ) (wanted : Nat) (network : ν) : Except TransportError Bytes × ν :=
  match _hfetch : (fetch stream wanted).run.run network with
  | (.ok bytes, network') =>
    if bytes = [] ∧ wanted ≠ 0 then (.error (.connectionClosed "peer closed the stream"), network')
    else (.ok bytes, network')
  | (.error .notReady, network') => (.ok [], network')
  | (.error .interrupted, network') => read stream wanted network'
  | (.error (.failed cause), network') => (.error (.receiveFailed cause), network')
termination_by interruptions network
decreasing_by
  have hless := interruptions_fetch_lt (congrArg Prod.fst _hfetch)
  rwa [_hfetch] at hless

theorem length_read_le {stream : σ} {wanted : Nat} {network : ν} {bytes : Bytes}
    (h : (read stream wanted network).1 = .ok bytes) : bytes.length ≤ wanted := by
  fun_induction read stream wanted network with
  | case1 => cases h
  | case2 network arrived network' hfetch =>
    cases h
    exact length_fetch_le (congrArg Prod.fst hfetch)
  | case3 =>
    cases h
    exact Nat.zero_le _
  | case4 network network' hfetch ih => exact ih h
  | case5 => cases h

theorem pending_read_lt {stream : σ} {wanted : Nat} {network : ν} {bytes : Bytes}
    (h : (read stream wanted network).1 = .ok bytes) (hne : bytes ≠ []) :
    pending (read stream wanted network).2 < pending network := by
  fun_induction read stream wanted network with
  | case1 => cases h
  | case2 network arrived network' hfetch =>
    cases h
    have hless := pending_fetch_lt (congrArg Prod.fst hfetch) hne
    rwa [hfetch] at hless
  | case3 =>
    cases h
    exact absurd rfl hne
  | case4 network network' hfetch ih =>
    have hle := pending_fetch_le (congrArg Prod.fst hfetch)
    rw [hfetch] at hle
    exact Nat.lt_of_lt_of_le (ih h) hle
  | case5 => cases h

end Network

/-! ## A network without streams -/

/-- A network in which nobody listens. -/
structure Unreachable where
deriving DecidableEq, Repr

namespace Unreachable

/-- The cause that is given when nobody listens at an address. -/
def refused : String := "Connection refused (os error 111)"

/-- The cause that is given for a host whose name the system would take to end too early. -/
def nulInHost : String := "file name contained an unexpected NUL byte"

/-- Why nothing is reached at a host: its name is looked at before anybody is asked. -/
def cause (host : String) : String := if '\x00' ∈ host.toList then nulInHost else refused

instance : Network Unreachable Empty where
  dial host _ := throw (cause host)
  offer := nofun
  fetch := nofun
  hangUp := nofun
  pending _ := 0
  interruptions _ := 0
  interruptions_offer_lt {stream} := nomatch stream
  interruptions_fetch_lt {stream} := nomatch stream
  length_fetch_le {stream} := nomatch stream
  pending_fetch_lt {stream} := nomatch stream
  pending_fetch_le {stream} := nomatch stream

end Unreachable

end Multiplayer
