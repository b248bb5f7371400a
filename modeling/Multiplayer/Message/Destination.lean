import Multiplayer.Wire.Cursor
import Multiplayer.World.Identifier

/-!
# Destinations of user messages

A destination is a kind and a 16-bit number.  Only a specified session needs the number; with
every other kind it is all ones.
-/

namespace Multiplayer

/-- Who a user message is for. -/
inductive DestinationKind where
  | myself
  /-- The session with the given number. -/
  | specified
  /-- Everyone in the room of the sender. -/
  | room
  /-- Everyone in the lobby. -/
  | lobby
deriving DecidableEq, Repr

namespace DestinationKind

def toByte : DestinationKind → UInt8
  | .myself => 0
  | .specified => 1
  | .room => 2
  | .lobby => 3

def ofByte? (value : UInt8) : Except WireError DestinationKind :=
  if value = 0 then .ok .myself
  else if value = 1 then .ok .specified
  else if value = 2 then .ok .room
  else if value = 3 then .ok .lobby
  else .error (.unknownValue .destinationKind value)

def name : DestinationKind → String
  | .myself => "Myself"
  | .specified => "Specified"
  | .room => "Room"
  | .lobby => "Lobby"

theorem ofByte?_toByte (kind : DestinationKind) : ofByte? kind.toByte = .ok kind := by
  cases kind <;> rfl

instance : Json.Document DestinationKind where
  toJson kind := Json.Value.ofText kind.name
  ofJson? := Json.Value.case? ([.myself, .specified, .room, .lobby].map fun kind => (kind.name, kind))

end DestinationKind

/-- A kind and the number that goes with it. -/
structure Destination where
  kind : DestinationKind
  id : UInt16
deriving DecidableEq, Repr

namespace Destination

/-- The number that stands where the kind says everything. -/
def implied : UInt16 := 0xffff

def myself : Destination := ⟨.myself, implied⟩
def session (id : SessionId) : Destination := ⟨.specified, id.value⟩
def room : Destination := ⟨.room, implied⟩
def lobby : Destination := ⟨.lobby, implied⟩

/-- A message is for the room of the sender unless it says otherwise. -/
instance : Inhabited Destination := ⟨room⟩

instance : Json.Document Destination where
  toJson d :=
    Json.Value.ofMembers
      [("kind", Json.Document.toJson d.kind), ("id", Json.Document.toJson d.id)]
  ofJson? value := do
    let [kind, id] ← value.record? ["kind", "id"] | none
    return ⟨← Json.required kind, ← Json.required id⟩

end Destination

end Multiplayer
