import Multiplayer.Stream.FrameKind
import Multiplayer.Wire.Packet

/-!
# Data frames

A data frame is a header, an event code and a body.  Code and body together are its payload,
which stands behind a 16-bit length on the wire.

* `ofPayload?` needs the two bytes of the code; `payload_of_ofPayload?` says that nothing is lost.
* `encode` needs a payload whose length fits in 16 bits.
-/

namespace Multiplayer

structure Frame where
  header : UInt8
  code : UInt16
  body : Bytes
deriving DecidableEq, Repr

namespace Frame

def kind? (frame : Frame) : Option FrameKind := FrameKind.ofHeader? frame.header

/-- Whether the session itself defines the data. -/
def isBuiltin (frame : Frame) : Bool := frame.kind? = some .builtin

def payload (frame : Frame) : Bytes := Bytes.ofNat 2 frame.code.toNat ++ frame.body

def ofPayload? (header : UInt8) : Bytes → Except WireError Frame
  | high :: low :: body => .ok ⟨header, UInt16.ofNat (Bytes.toNat [high, low]), body⟩
  | short => .error (.truncated 0 2 short.length)

theorem payload_of_ofPayload? {header : UInt8} {payload : Bytes} {frame : Frame}
    (h : ofPayload? header payload = .ok frame) : frame.payload = payload := by
  match payload, h with
  | high :: low :: body, h =>
    simp only [ofPayload?, Except.ok.injEq] at h
    subst h
    have hlt : Bytes.toNat [high, low] < 65536 := by simpa using Bytes.toNat_lt [high, low]
    have hdigits : Bytes.ofNat 2 (Bytes.toNat [high, low]) = [high, low] :=
      Bytes.ofNat_toNat [high, low]
    simp [Frame.payload, Nat.mod_eq_of_lt hlt, hdigits]

def read {α : Type} (decoder : Decoder α) (frame : Frame) : Except WireError α :=
  decoder.decode frame.body

def encode (frame : Frame) : Except WireError Bytes :=
  let length := frame.payload.length
  if length < UInt16.size then .ok (frame.header :: Bytes.ofNat 2 length ++ frame.payload)
  else .error (.lengthOverflow length)

/-- A frame on one line: header, code and the length of the body. -/
def summary (frame : Frame) : String :=
  "Frame \x7b header: " ++ Hex.numeral 2 frame.header.toNat ++ ", event_code: " ++
    Hex.numeral 4 frame.code.toNat ++ ", body_len: " ++ toString frame.body.length ++ " \x7d"

end Frame

end Multiplayer
