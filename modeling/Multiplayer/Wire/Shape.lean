import Multiplayer.Time.Timestamp
import Multiplayer.Wire.Packet

/-!
# Shapes of wire values

A shape names a type of value that can stand on the wire; `Shape.Carrier` is that type in Lean,
and `Shape.write` and `Shape.read` are its two directions.  A message is described by the list of
shapes of its fields.
-/

namespace Multiplayer

/-- The types of value that stand on the wire. -/
inductive Shape where
  | bool
  | uint8
  | uint16
  | uint32
  | uint64
  | int8
  | int16
  | int32
  | int64
  /-- A binary32 number, kept as its bits. -/
  | float32
  /-- A binary64 number, kept as its bits. -/
  | float64
  | text
  | bytes
  | time
  | duration
  | list (element : Shape)
deriving DecidableEq, Repr

namespace Shape

abbrev Carrier : Shape → Type
  | .bool => Bool
  | .uint8 => UInt8
  | .uint16 => UInt16
  | .uint32 => UInt32
  | .uint64 => UInt64
  | .int8 => Int8
  | .int16 => Int16
  | .int32 => Int32
  | .int64 => Int64
  | .float32 => UInt32
  | .float64 => UInt64
  | .text => String
  | .bytes => Bytes
  | .time => Timestamp
  | .duration => Duration
  | .list element => List element.Carrier

/-- Appends a value to a packet. -/
def write : (shape : Shape) → shape.Carrier → Packet → Packet
  | .bool, b, p => p.uint8 (if b then 1 else 0)
  | .uint8, n, p => p.uint8 n
  | .uint16, n, p => p.uint16 n
  | .uint32, n, p => p.uint32 n
  | .uint64, n, p => p.uint64 n
  | .int8, n, p => p.uint8 n.toUInt8
  | .int16, n, p => p.uint16 n.toUInt16
  | .int32, n, p => p.uint32 n.toUInt32
  | .int64, n, p => p.uint64 n.toUInt64
  | .float32, bits, p => p.uint32 bits
  | .float64, bits, p => p.uint64 bits
  | .text, string, p => p.text string
  | .bytes, string, p => p.sized string
  | .time, t, p => p.uint64 t.toTicks.toUInt64
  | .duration, d, p => p.uint64 d.toSeconds
  | .list element, elements, p => p.list element.write elements

/-- Reads a value from a payload.  Any byte but zero is the truth value true. -/
def read : (shape : Shape) → Decoder shape.Carrier
  | .bool => return (← Decoder.uint8) != 0
  | .uint8 => Decoder.uint8
  | .uint16 => Decoder.uint16
  | .uint32 => Decoder.uint32
  | .uint64 => Decoder.uint64
  | .int8 => return (← Decoder.uint8).toInt8
  | .int16 => return (← Decoder.uint16).toInt16
  | .int32 => return (← Decoder.uint32).toInt32
  | .int64 => return (← Decoder.uint64).toInt64
  | .float32 => Decoder.uint32
  | .float64 => Decoder.uint64
  | .text => Decoder.text
  | .bytes => Decoder.sized
  | .time => return Timestamp.ofTicks (← Decoder.uint64).toInt64
  | .duration => Decoder.duration
  | .list element => Decoder.list element.read

end Shape

end Multiplayer
