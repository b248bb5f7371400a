import Multiplayer.Text.Hex
import Multiplayer.Wire.Cursor

/-!
# Packets under construction

A packet has room for `packetCapacity` bytes, of which the first three are kept for the header
and the length.  A write that does not fit is skipped as a whole, the first such write is
remembered, and every later write is skipped too; encoding the packet then reports it.

* `append` writes raw bytes; `count`, `sized` and `list` are made of it.
* `append_of_fault`: nothing is written to a packet that has a fault.
* `encode` gives the header, the 16-bit length and the payload.
-/

namespace Multiplayer

/-- Why a write to a packet was skipped. -/
inductive Packet.Fault where
  /-- With the write the packet would have taken `attempted` bytes, the reserved ones included. -/
  | overflow (attempted : Nat)
  /-- A count does not fit in 16 bits. -/
  | length (count : Nat)
deriving DecidableEq, Repr

/-- An outbound message under construction. -/
structure Packet where
  header : UInt8
  payload : Bytes
  /-- The first write that was skipped. -/
  fault : Option Packet.Fault
deriving DecidableEq, Repr

namespace Packet

/-- Bytes kept at the front for the header and the length. -/
def reserved : Nat := 3

/-- The header of an application message: data defined by the application, flags `3`. -/
def defaultHeader : UInt8 := 0x39

def empty (header : UInt8 := defaultHeader) : Packet := ⟨header, [], none⟩

instance : Inhabited Packet := ⟨empty⟩

/-- The error that encoding reports for a fault. -/
def Fault.toError : Fault → WireError
  | .overflow attempted => .overflow attempted
  | .length count => .lengthOverflow count

/-! ## Writing -/

/-- Appends bytes as they are, if they fit and nothing was skipped before. -/
def append (p : Packet) (bytes : Bytes) : Packet :=
  if p.fault.isSome then p
  else
    let stop := reserved + p.payload.length + bytes.length
    if stop ≤ packetCapacity then { p with payload := p.payload ++ bytes }
    else { p with fault := some (.overflow stop) }

def count (p : Packet) (n : Nat) : Packet :=
  if n < UInt16.size then p.append (Bytes.ofNat 2 n)
  else { p with fault := p.fault.or (some (.length n)) }

/-- Appends a byte string behind its length. -/
def sized (p : Packet) (bytes : Bytes) : Packet := (p.count bytes.length).append bytes

/-- Appends a list: its count, and then its elements unless the count was skipped. -/
def list {α : Type} (write : α → Packet → Packet) (p : Packet) (elements : List α) : Packet :=
  let counted := p.count elements.length
  if counted.fault.isSome then counted
  else elements.foldl (fun p element => write element p) counted

/-- Appends the payload of another packet, as it stands and without a length. -/
def embed (p inner : Packet) : Packet := p.append inner.payload

/-- Appends a text: its UTF-8 form behind its length. -/
def text (p : Packet) (text : String) : Packet := p.sized (Utf8.encode text.toList)

def uint8 (p : Packet) (n : UInt8) : Packet := p.append (Bytes.ofNat 1 n.toNat)
def uint16 (p : Packet) (n : UInt16) : Packet := p.append (Bytes.ofNat 2 n.toNat)
def uint32 (p : Packet) (n : UInt32) : Packet := p.append (Bytes.ofNat 4 n.toNat)
def uint64 (p : Packet) (n : UInt64) : Packet := p.append (Bytes.ofNat 8 n.toNat)

theorem append_of_fault {p : Packet} (h : p.fault.isSome) (bytes : Bytes) :
    p.append bytes = p := by
  simp [append, h]

/-! ## Messages that start with an event code -/

/-- A packet whose payload starts with an event code. -/
def forEvent (code : UInt16) (header : UInt8 := defaultHeader) : Packet :=
  (empty header).uint16 code

/-- The event code that a packet made by `forEvent` starts with. -/
def eventCode (p : Packet) : UInt16 := UInt16.ofNat (Bytes.toNat (p.payload.take 2))

def body (p : Packet) : Bytes := p.payload.drop 2

/-! ## Encoding -/

/-- Header, 16-bit length and payload. -/
def encode (p : Packet) : Except WireError Bytes :=
  match p.fault with
  | some fault => .error fault.toError
  | none =>
    if p.payload.length < UInt16.size then
      .ok (p.header :: Bytes.ofNat 2 p.payload.length ++ p.payload)
    else .error (.lengthOverflow p.payload.length)

def Fault.summary : Fault → String
  | .overflow attempted => "Overflow \x7b attempted: " ++ toString attempted ++ " \x7d"
  | .length count => s!"Length({count})"

/-- A packet on one line: header, payload length and fault. -/
def summary (p : Packet) : String :=
  let fault := match p.fault with
    | none => "None"
    | some fault => "Some(" ++ fault.summary ++ ")"
  "Packet \x7b header: " ++ Hex.numeral 2 p.header.toNat ++ ", len: " ++
    toString p.payload.length ++ ", fault: " ++ fault ++ " \x7d"

end Packet

end Multiplayer
