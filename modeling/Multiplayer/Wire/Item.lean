import Multiplayer.Wire.Shape

/-!
# Messages as data

An item is one write to a packet, and a message is a list of items.  Lists may hold items of
different shapes, and a message may be embedded in another.
-/

namespace Multiplayer

inductive Item where
  | value (shape : Shape) (v : shape.Carrier)
  | raw (bytes : Bytes)
  | list (elements : List Item)
  /-- Another message, written to a packet of its own whose payload is then embedded. -/
  | embedded (message : List Item)
  | header (byte : UInt8)

namespace Item

mutual

def write : Item → Packet → Packet
  | .value shape v, p => shape.write v p
  | .raw bytes, p => p.append bytes
  | .list elements, p =>
    let counted := p.count elements.length
    if counted.fault.isSome then counted else writeAll elements counted
  | .embedded message, p => p.embed (writeAll message .empty)
  | .header byte, p => { p with header := byte }

def writeAll : List Item → Packet → Packet
  | [], p => p
  | item :: items, p => writeAll items (write item p)

end

end Item

end Multiplayer
