/-!
# Errors of a session

What can go wrong before the first byte is sent, and what is refused because of the phase that a
session is in.
-/

namespace Multiplayer

/-- Why a session cannot be set up, or an operation on it is refused. -/
inductive SessionError where
  /-- The credential does not name provider, developer and application. -/
  | invalidCredential
  /-- The directory has no endpoint for an application. -/
  | endpointNotFound (appId : String)
  /-- The directory has failed. -/
  | lookupFailed (cause : String)
  /-- The description of an endpoint is not a document of that type. -/
  | invalidEndpoint
  /-- Settings are not a document of that type. -/
  | invalidSettings
  | alreadyStarted
  | notConnected
deriving DecidableEq, Repr

def SessionError.message : SessionError → String
  | .invalidCredential => "credential does not identify an application"
  | .endpointNotFound appId => "no realtime endpoint found for application " ++ appId
  | .lookupFailed cause => "discovery failed: " ++ cause
  | .invalidEndpoint => "invalid server descriptor"
  | .invalidSettings => "invalid configuration"
  | .alreadyStarted => "session already started"
  | .notConnected => "session is not connected"

end Multiplayer
