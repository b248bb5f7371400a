import Multiplayer.Message.Destination
import Multiplayer.Stream.Frame

/-!
# User messages and error reports

A user message that arrives has a head of seven bytes in the frame body: origin, destination and
command.  An error report has a head of two bytes: its code.  What follows belongs to the
application.

* `UserMessage.ofFrame` and `ErrorReport.ofFrame` read the heads.
* `UserMessage.writeHead` is the head of an outgoing message, which names no origin.
-/

namespace Multiplayer

/-- A message that another client has addressed to this one. -/
structure UserMessage where
  origin : SessionId
  destination : Destination
  /-- What the application means by it. -/
  command : UInt16
  frame : Frame
deriving DecidableEq, Repr

namespace UserMessage

def headLength : Nat := 7

/-- Reads destination and command. -/
def addressDecoder : Decoder (Destination × UInt16) := do
  let kind ← Decoder.enumerated DestinationKind.ofByte?
  let id ← Decoder.uint16
  return (⟨kind, id⟩, ← Decoder.uint16)

/-- Reads the message in a frame. -/
def ofFrame (frame : Frame) : Except WireError UserMessage := frame.read do
  let origin := SessionId.mk (← Decoder.uint16)
  let (destination, command) ← addressDecoder
  return ⟨origin, destination, command, frame⟩

/-- What the application has put into the message. -/
def body (message : UserMessage) : Bytes := message.frame.body.drop headLength

/-- Appends destination and command. -/
def writeHead (destination : Destination) (command : UInt16) (p : Packet) : Packet :=
  ((p.uint8 destination.kind.toByte).uint16 destination.id).uint16 command

end UserMessage

/-- Which side an error is on. -/
inductive ErrorSource where
  /-- The server has refused something that this client has sent. -/
  | client
  /-- The server has failed. -/
  | server
deriving DecidableEq, Repr

def ErrorSource.name : ErrorSource → String
  | .client => "Client"
  | .server => "Server"

/-- An error that the server reports. -/
structure ErrorReport where
  source : ErrorSource
  code : UInt16
  frame : Frame
deriving DecidableEq, Repr

namespace ErrorReport

def headLength : Nat := 2

/-- The code for a request that cannot be served. -/
def badRequest : UInt16 := 0

/-- The code for a failure inside the server. -/
def internalError : UInt16 := 0xffff

/-- Reads the report in a frame. -/
def ofFrame (source : ErrorSource) (frame : Frame) : Except WireError ErrorReport := frame.read do
  return ⟨source, ← Decoder.uint16, frame⟩

/-- What the server says beyond the code. -/
def detail (report : ErrorReport) : Bytes := report.frame.body.drop headLength

end ErrorReport

end Multiplayer
