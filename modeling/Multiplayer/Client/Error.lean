import Multiplayer.Routing.Handler
import Multiplayer.Session.Error
import Multiplayer.Transport.Error

/-!
# Errors of a client

An operation of a client fails because one of its parts does, and the wording is that of the part.
-/

namespace Multiplayer

/-- Why an operation of a client fails. -/
inductive ClientError where
  | transport (cause : TransportError)
  | wire (cause : WireError)
  | routing (cause : RoutingError)
  /-- The session cannot be set up, or is not in the right phase. -/
  | session (cause : SessionError)
deriving DecidableEq, Repr

def ClientError.message : ClientError → String
  | .transport cause => cause.message
  | .wire cause => cause.message
  | .routing cause => cause.message
  | .session cause => cause.message

end Multiplayer
