/-!
# Errors of a transport
-/

namespace Multiplayer

/-- Why a transport cannot do what it is asked for. -/
inductive TransportError where
  | connectionClosed (cause : String)
  | connectFailed (host : String) (port : UInt16) (cause : String)
  | sendFailed (cause : String)
  | receiveFailed (cause : String)
  /-- The transport has taken nothing although `remaining` bytes were left to send. -/
  | writeStalled (remaining : Nat)
  | notConnected
deriving DecidableEq, Repr

def TransportError.message : TransportError → String
  | .connectionClosed cause => "connection closed: " ++ cause
  | .connectFailed host port cause => s!"connect to {host}:{port.toNat} failed: {cause}"
  | .sendFailed cause => "send failed: " ++ cause
  | .receiveFailed cause => "receive failed: " ++ cause
  | .writeStalled remaining => s!"transport accepted 0 of {remaining} remaining bytes"
  | .notConnected => "transport is not connected"

end Multiplayer
