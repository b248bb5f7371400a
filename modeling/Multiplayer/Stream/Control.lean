import Multiplayer.Stream.FrameKind
import Multiplayer.Time.Timestamp
import Multiplayer.Wire.Error

/-!
# Frames that a client sends on its own behalf

Authentication carries a counted token, a heartbeat carries the time in ticks, and closing is a
header alone.
-/

namespace Multiplayer.Control

def authenticate (token : Bytes) : Except WireError Bytes :=
  if token.length < UInt16.size then
    .ok (FrameKind.authenticate.toByte :: Bytes.ofNat 2 token.length ++ token)
  else .error (.lengthOverflow token.length)

def heartbeat (now : Timestamp) : Bytes :=
  FrameKind.hello.toByte :: Bytes.ofNat 8 now.toTicks.toUInt64.toNat

def closing : Bytes := [FrameKind.closing.toByte]

end Multiplayer.Control
