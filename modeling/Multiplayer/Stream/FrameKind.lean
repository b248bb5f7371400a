/-!
# Kinds of frame

The low four bits of a header byte say what kind of frame it starts; the high four bits are flags
and do not matter here.
-/

namespace Multiplayer

/-- What a header byte starts. -/
inductive FrameKind where
  /-- A sign of life; nothing follows. -/
  | hello
  /-- The peer is ending the session. -/
  | closing
  /-- The session is ended. -/
  | closed
  /-- The session is accepted: its keep-alive interval and number follow. -/
  | established
  /-- A token follows; only a client sends it. -/
  | authenticate
  /-- A clock sample follows. -/
  | ntp
  /-- Kept for later. -/
  | proxy
  /-- Counted data that the session itself defines. -/
  | builtin
  /-- Counted data that the application defines. -/
  | application
deriving DecidableEq, Repr

namespace FrameKind

/-- The header byte of a kind, without flags. -/
def toByte : FrameKind → UInt8
  | .hello => 0
  | .closing => 1
  | .closed => 2
  | .established => 3
  | .authenticate => 4
  | .ntp => 5
  | .proxy => 6
  | .builtin => 8
  | .application => 9

def all : List FrameKind :=
  [.hello, .closing, .closed, .established, .authenticate, .ntp, .proxy, .builtin, .application]

/-- The kind of a header byte. -/
def ofHeader? (header : UInt8) : Option FrameKind :=
  all.find? (·.toByte = header &&& 0x0f)

def name : FrameKind → String
  | .hello => "Hello"
  | .closing => "Closing"
  | .closed => "Closed"
  | .established => "Established"
  | .authenticate => "Authenticate"
  | .ntp => "Ntp"
  | .proxy => "Proxy"
  | .builtin => "Builtin"
  | .application => "Original"

theorem ofHeader?_toByte (kind : FrameKind) : ofHeader? kind.toByte = some kind := by
  cases kind <;> rfl

end FrameKind

end Multiplayer
