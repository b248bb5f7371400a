import Multiplayer.Text.Utf8
import Multiplayer.Time.Duration

/-!
# Errors of the wire format

One constructor per cause; `WireError.message` holds the wording.
-/

namespace Multiplayer

/-- The fields whose one-byte values are enumerated. -/
inductive EnumField where
  | destinationKind
  | userStatus
  | roomKind
  | roomStatus
deriving DecidableEq, Repr

def EnumField.label : EnumField → String
  | .destinationKind => "destination kind"
  | .userStatus => "user status"
  | .roomKind => "room type"
  | .roomStatus => "room status"

/-- Bytes that a packet can hold, the reserved ones included. -/
def packetCapacity : Nat := 8192

/-- Why something cannot be written to or read from the wire. -/
inductive WireError where
  /-- A read of `needed` bytes at `offset` runs past a payload of `length` bytes. -/
  | truncated (offset needed length : Nat)
  /-- A packet would take `attempted` bytes, the reserved ones included. -/
  | overflow (attempted : Nat)
  /-- A length or count does not fit in 16 bits. -/
  | lengthOverflow (length : Nat)
  /-- A string is not UTF-8. -/
  | invalidUtf8 (fault : Utf8.Fault)
  /-- A byte is no value of an enumerated field. -/
  | unknownValue (field : EnumField) (value : UInt8)
  /-- A number of seconds, given by its bits, is not a duration. -/
  | invalidDuration (seconds : UInt64) (fault : Duration.Fault)
deriving DecidableEq, Repr

def WireError.message : WireError → String
  | .truncated offset needed length =>
    s!"read of {needed} bytes at offset {offset} runs past the {length}-byte payload"
  | .overflow attempted =>
    s!"packet overflow: {attempted} bytes exceed capacity of {packetCapacity}"
  | .lengthOverflow length => s!"length {length} does not fit a 16-bit length prefix"
  | .invalidUtf8 fault => "invalid utf-8 string: " ++ fault.message
  | .unknownValue field value => s!"invalid message: unknown {field.label} {value.toNat}"
  | .invalidDuration seconds fault =>
    let shown := (Decimal.Binary.ofBits seconds).toText
    s!"invalid message: duration {shown}s: {fault.message}"

end Multiplayer
