import Multiplayer.Client.Client
import Multiplayer.Message.UserMessage

/-!
# Requests

What a connected client can ask of the server and send to other clients.  A packet is encoded
before anything else is looked at, so one that cannot be encoded is reported in every phase.
-/

namespace Multiplayer.Client

variable {τ δ α : Type} [Transport τ]

def sendRaw (bytes : Bytes) : Operation τ δ α Unit := do
  if (← get).session.isConnected then write bytes
  else throw (.session .notConnected)

def send (packet : Packet) : Operation τ δ α Unit := do
  sendRaw (← encoded packet.encode)

/-- The packet of a request, before anything is written behind the event. -/
def requestPacket (event : Event) : Packet := .forEvent event.code FrameKind.builtin.toByte

/-! ## Rooms -/

def createRoom : Operation τ δ α Unit := send (requestPacket .roomCreate)

def enterRoom (room : RoomId) : Operation τ δ α Unit :=
  send ((requestPacket .roomEnter).uint16 room.value)

def exitRoom : Operation τ δ α Unit := send (requestPacket .roomExit)

def lockRoom : Operation τ δ α Unit := send (requestPacket .roomLock)

def unlockRoom : Operation τ δ α Unit := send (requestPacket .roomUnlock)

/-- Asks for a room with a tag and a capacity, to be shared with others who ask for the same. -/
def matchRoom (tag : String) (capacity : UInt16) : Operation τ δ α Unit :=
  send (((requestPacket .roomMatch).text tag).uint16 capacity)

/-! ## Messages -/

/-- The packet of a user message: the payload of the body stands behind the head as it is. -/
def messagePacket (command : UInt16) (body? : Option Packet) (destination : Destination) : Packet :=
  let head := UserMessage.writeHead destination command (requestPacket .userMessage)
  body?.elim head head.embed

/-- Sends a message of the application to a destination. -/
def sendMessage (command : UInt16) (body? : Option Packet) (destination : Destination) :
    Operation τ δ α Unit :=
  send (messagePacket command body? destination)

end Multiplayer.Client
