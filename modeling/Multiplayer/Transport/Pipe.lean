import Multiplayer.Transport.Transport

/-!
# A pipe in memory

Both ends of a connection in one value: the client's end is the transport, and the other end is
driven by the functions of this module.  Limits cut what is sent and received into pieces.

* `Pipe.receive` takes from the front of what was pushed; after a hang-up it fails once that is
  empty.
* `Pipe.send` fails only between a close and the next connect.
* `takeOutbound_of_send`: the other end gets what a send has taken behind what was sent before.
-/

namespace Multiplayer

structure Pipe where
  /-- Pushed by the other end and not yet received. -/
  inbound : Bytes
  /-- Sent and not yet taken by the other end, the last byte first, so that a send costs no more
  than the bytes that it takes. -/
  outbound : Bytes
  endpoint : Option (String × UInt16)
  /-- The most bytes that one receive gives. -/
  readLimit : Option Nat
  /-- The most bytes that one send takes. -/
  acceptLimit : Option Nat
  /-- How many sends there were while the pipe was not closed. -/
  attempts : Nat
  /-- How often the pipe was given time. -/
  updates : Nat
  closed : Bool
  hungUp : Bool
deriving DecidableEq, Repr

namespace Pipe

def empty : Pipe := ⟨[], [], none, none, none, 0, 0, false, false⟩

instance : Inhabited Pipe := ⟨empty⟩

/-! ## The other end -/

def push (pipe : Pipe) (bytes : Bytes) : Pipe := { pipe with inbound := pipe.inbound ++ bytes }

/-- Takes everything that was sent. -/
def takeOutbound (pipe : Pipe) : Bytes × Pipe :=
  (pipe.outbound.reverse, { pipe with outbound := [] })

/-- Ends the connection from the other end, behind what was pushed. -/
def hangUp (pipe : Pipe) : Pipe := { pipe with hungUp := true }

/-! ## The client's end -/

/-- The smaller one of a number and a limit, if there is one. -/
def limited (limit : Option Nat) (n : Nat) : Nat :=
  match limit with
  | some limit => min limit n
  | none => n

/-- The front of some bytes, as far as a limit allows. -/
def upTo (limit : Option Nat) (bytes : Bytes) : Bytes :=
  match limit with
  | some limit => bytes.take limit
  | none => bytes

def connect (host : String) (port : UInt16) : Link Pipe Unit :=
  modify fun pipe => { pipe with endpoint := some (host, port), closed := false }

/-- Counts the times at which the pipe was given time. -/
def update : Link Pipe Unit := modify fun pipe => { pipe with updates := pipe.updates + 1 }

/-- Takes as many bytes as the limit allows. -/
def send (data : Bytes) : Link Pipe Nat := do
  let pipe ← get
  if pipe.closed then throw .notConnected
  let taken := upTo pipe.acceptLimit data
  set { pipe with attempts := pipe.attempts + 1, outbound := taken.reverseAux pipe.outbound }
  return taken.length

/-- Gives as many bytes as are wanted, there, and allowed by the limit. -/
def receive (wanted : Nat) : Link Pipe Bytes := fun pipe =>
  if pipe.inbound.isEmpty && pipe.hungUp then (.error (.connectionClosed "peer hung up"), pipe)
  else
    let n := limited pipe.readLimit wanted
    (.ok (pipe.inbound.take n), { pipe with inbound := pipe.inbound.drop n })

def close : Link Pipe Unit := modify fun pipe => { pipe with closed := true }

theorem limited_le (limit : Option Nat) (n : Nat) : limited limit n ≤ n := by
  cases limit with
  | none => exact Nat.le_refl n
  | some limit => exact Nat.min_le_right limit n

theorem prefix_upTo (limit : Option Nat) (bytes : Bytes) : upTo limit bytes <+: bytes := by
  cases limit with
  | none => exact List.prefix_refl bytes
  | some limit => exact List.take_prefix limit bytes

/-- The other end gets what a send has taken behind what was sent before. -/
theorem takeOutbound_of_send {data : Bytes} {pipe : Pipe} {n : Nat}
    (h : ((send data).run.run pipe).1 = .ok n) :
    ((send data).run.run pipe).2.takeOutbound.1 = pipe.takeOutbound.1 ++ data.take n := by
  by_cases hclosed : pipe.closed
  · simp only [send, Attempt.run_bind, Attempt.run_get, hclosed, if_true, Attempt.run_throw,
      reduceCtorEq] at h
  · simp only [send, Attempt.run_bind, hclosed, Attempt.run_get, Bool.false_eq_true, if_false,
      Attempt.run_set, Attempt.run_pure, Except.ok.injEq] at h ⊢
    subst h
    simp [takeOutbound, List.reverseAux_eq,
      ← List.prefix_iff_eq_take.1 (prefix_upTo pipe.acceptLimit data)]

theorem inbound_of_receive {wanted : Nat} {pipe : Pipe} {bytes : Bytes}
    (h : ((receive wanted).run.run pipe).1 = .ok bytes) :
    pipe.inbound = bytes ++ ((receive wanted).run.run pipe).2.inbound ∧ bytes.length ≤ wanted := by
  by_cases hend : pipe.inbound.isEmpty && pipe.hungUp
  · simp [receive, ExceptT.run, StateT.run, hend] at h
  · simp only [receive, ExceptT.run, StateT.run, hend, Bool.false_eq_true, if_false,
      Except.ok.injEq] at h ⊢
    subst h
    refine ⟨(List.take_append_drop _ _).symm, ?_⟩
    exact Nat.le_trans (List.length_take_le ..) (limited_le ..)

instance : Transport Pipe where
  connect := connect
  update := update
  send := send
  receive := receive
  close := close
  pending pipe := pipe.inbound.length
  length_receive_le h := (inbound_of_receive h).2
  pending_receive_lt {_ pipe bytes} h hne := by
    have := (inbound_of_receive h).1
    have := List.length_pos_iff.2 hne
    have := congrArg List.length (inbound_of_receive h).1
    simp only [List.length_append] at this
    omega

end Pipe

end Multiplayer
