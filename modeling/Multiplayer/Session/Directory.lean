import Multiplayer.Attempt
import Multiplayer.Session.Settings

/-!
# Finding the server

Before it connects, a client asks a directory for the endpoint of its application.  How the
directory is reached is left open; this module has the form of the answer, and the address at
which the public directory answers.
-/

namespace Multiplayer

/-- Where a server is reached. -/
structure Endpoint where
  scheme : String
  host : String
  port : UInt16
  key : String
  options : String
deriving DecidableEq, Repr

namespace Endpoint

/-- The endpoint of which only host and port are known. -/
def ofAddress (host : String) (port : UInt16) : Endpoint := ⟨"udp", host, port, "", ""⟩

instance : Json.Document Endpoint where
  toJson e :=
    Json.Value.ofMembers
      [("scheme", Json.Document.toJson e.scheme), ("host", Json.Document.toJson e.host),
        ("port", Json.Document.toJson e.port), ("key", Json.Document.toJson e.key),
        ("options", Json.Document.toJson e.options)]
  ofJson? value := do
    let [scheme, host, port, key, options] ←
      value.record? ["scheme", "host", "port", "key", "options"] | none
    return ⟨← Json.optional "" scheme, ← Json.required host, ← Json.required port,
      ← Json.optional "" key, ← Json.optional "" options⟩

/-- Reads the description of an endpoint. -/
def parse (json : String) : Except SessionError Endpoint :=
  match Json.read? json with
  | some endpoint => .ok endpoint
  | none => .error .invalidEndpoint

end Endpoint

/-- Something that knows the endpoints of applications and may change when asked. -/
class Directory (δ : Type) where
  /-- The endpoint of an application, if there is one. -/
  lookup : (appId : String) → Attempt SessionError δ (Option Endpoint)

/-- A directory that always gives the same answer. -/
structure FixedDirectory where
  endpoint? : Option Endpoint
deriving DecidableEq, Repr

instance : Directory FixedDirectory where
  lookup _ := return (← get).endpoint?

/-- A directory that answers as a function says. -/
structure QueryDirectory where
  query : String → Except SessionError (Option Endpoint)

instance : Directory QueryDirectory where
  lookup appId := fun directory => (directory.query appId, directory)

namespace Directory

/-- The address of the public directory. -/
def baseUrl : Environment → Region → String
  | .playground, _ => "http://central.playground.hayabusa-cloud.link"
  | .production, .jp => "https://central.jp.prd.hayabusa-cloud.link"

/-- The address at which the public directory answers for an application. -/
def lookupUrl (environment : Environment) (region : Region) (appId : String)
    (options : List String) : String :=
  let url := baseUrl environment region ++ "/v1/realtime/" ++ appId
  if options.isEmpty then url else url ++ "?" ++ "&".intercalate options

end Directory

end Multiplayer
