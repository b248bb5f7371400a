import Multiplayer.Transport.Network
import Multiplayer.Transport.Transport

/-!
# Sockets

A socket is a stream with a queue in front of it.  What the stream does not take at once is kept, up
to a limit, and offered again with the next send and whenever the socket is given time.  A send
takes no more than there is room for.

* `Socket.flush` writes what is kept.  Until there is a stream it is refused, and so are sending and
  receiving.
* `Socket.close` tries to flush first, and gives up the stream in any case.
-/

namespace Multiplayer

/-- A stream socket over a network. -/
structure Socket (ν σ : Type) where
  network : ν
  stream : Option σ
  /-- What the stream has not taken yet. -/
  unsent : Bytes
  /-- The most bytes that are kept. -/
  maxUnsent : Nat

namespace Socket

/-- A socket that was never connected.  It keeps up to 256 KiB unless it is told otherwise. -/
def unconnected {ν σ : Type} (network : ν) (maxUnsent : Nat := 256 * 1024) : Socket ν σ :=
  ⟨network, none, [], maxUnsent⟩

/-- A socket with nobody to connect to. -/
def empty (maxUnsent : Nat := 256 * 1024) : Socket Unreachable Empty := unconnected ⟨⟩ maxUnsent

variable {ν σ : Type} [Network ν σ]

/-- A network after the stream of the socket, if it has one, has been given up. -/
def released (s : Socket ν σ) (network : ν) : ν :=
  match s.stream with
  | some stream => Network.hangUp stream network
  | none => network

/-- Opens a stream.  It replaces the one that was there, and nothing is left to send. -/
def connect (host : String) (port : UInt16) : Link (Socket ν σ) Unit := fun s =>
  match (Network.dial host port).run.run s.network with
  | (.ok stream, network) =>
    (.ok (), { s with network := s.released network, stream := some stream, unsent := [] })
  | (.error cause, network) => (.error (.connectFailed host port cause), { s with network })

/-- Writes what is kept, as far as the stream takes it now. -/
def flush : Link (Socket ν σ) Unit := fun s =>
  match s.stream with
  | none => (.error .notConnected, s)
  | some stream =>
    match Network.write stream s.unsent s.network with
    | (.ok rest, network) => (.ok (), { s with network, unsent := rest })
    -- What the stream took before it failed is kept as well, and would be written once more.
    | (.error e, network) => (.error e, { s with network })

def update : Link (Socket ν σ) Unit := do
  if (← get).unsent.isEmpty then return ()
  flush

/-- Takes as many bytes as there is room for. -/
def send (data : Bytes) : Link (Socket ν σ) Nat := do
  let s ← get
  if s.stream.isNone then throw .notConnected
  let taken := data.take (s.maxUnsent - s.unsent.length)
  set { s with unsent := s.unsent ++ taken }
  flush
  return taken.length

def receive (wanted : Nat) : Link (Socket ν σ) Bytes := fun s =>
  match s.stream with
  | none => (.error .notConnected, s)
  | some stream =>
    let read := Network.read stream wanted s.network
    (read.1, { s with network := read.2 })

/-- Gives up the stream.  That what is kept cannot be written is no failure. -/
def close : Link (Socket ν σ) Unit := do
  let s ← get
  if ¬ s.unsent.isEmpty ∧ s.stream.isSome then
    tryCatch flush fun _ => return ()
  modify fun s => { s with network := s.released s.network, stream := none }

instance : Transport (Socket ν σ) where
  connect := connect
  update := update
  send := send
  receive := receive
  close := close
  pending s := Network.pending s.network
  length_receive_le {wanted s bytes} h := by
    rcases hstream : s.stream with _ | stream
    · simp [receive, hstream, ExceptT.run, StateT.run] at h
    · simp only [receive, hstream, ExceptT.run, StateT.run] at h
      exact Network.length_read_le h
  pending_receive_lt {wanted s bytes} h hne := by
    rcases hstream : s.stream with _ | stream
    · simp [receive, hstream, ExceptT.run, StateT.run] at h
    · simp only [receive, hstream, ExceptT.run, StateT.run] at h ⊢
      exact Network.pending_read_lt h hne

end Socket

end Multiplayer
