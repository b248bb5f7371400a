import Multiplayer.Attempt
import Multiplayer.Bytes
import Multiplayer.Client.Client
import Multiplayer.Client.Dispatch
import Multiplayer.Client.Error
import Multiplayer.Client.Lifecycle
import Multiplayer.Client.Reaction
import Multiplayer.Client.Request
import Multiplayer.Decimal.Shortest
import Multiplayer.Json.Document
import Multiplayer.Json.Printer
import Multiplayer.Json.Reader
import Multiplayer.Json.Value
import Multiplayer.Message.Destination
import Multiplayer.Message.Event
import Multiplayer.Message.UserMessage
import Multiplayer.Proofs.Attempt
import Multiplayer.Proofs.Chronicle
import Multiplayer.Proofs.Client.Alignment
import Multiplayer.Proofs.Client.Arrivals
import Multiplayer.Proofs.Client.Conversation
import Multiplayer.Proofs.Client.Draining
import Multiplayer.Proofs.Client.Hearing
import Multiplayer.Proofs.Client.Heartbeats
import Multiplayer.Proofs.Client.Lifecycle
import Multiplayer.Proofs.Client.Mirroring
import Multiplayer.Proofs.Client.Outbound
import Multiplayer.Proofs.Client.Phases
import Multiplayer.Proofs.Client.Reachable
import Multiplayer.Proofs.Client.Replication
import Multiplayer.Proofs.Client.Retrying
import Multiplayer.Proofs.Client.Run
import Multiplayer.Proofs.Client.Sealing
import Multiplayer.Proofs.Routing.Leaving
import Multiplayer.Proofs.Routing.Nesting
import Multiplayer.Proofs.Routing.Registering
import Multiplayer.Proofs.Stream.Feed
import Multiplayer.Proofs.Stream.Fragmentation
import Multiplayer.Proofs.Stream.Grammar
import Multiplayer.Proofs.Stream.Teardown
import Multiplayer.Proofs.Text.Utf8
import Multiplayer.Proofs.Time.Ticks
import Multiplayer.Proofs.Transport.Attempts
import Multiplayer.Proofs.Transport.Delivery
import Multiplayer.Proofs.Transport.Log
import Multiplayer.Proofs.Transport.Queues
import Multiplayer.Proofs.Transport.Sockets
import Multiplayer.Proofs.Wire.Embedding
import Multiplayer.Proofs.Wire.Primitive
import Multiplayer.Proofs.Wire.Reads
import Multiplayer.Proofs.Wire.RoundTrip
import Multiplayer.Proofs.World.Announcement
import Multiplayer.Proofs.World.Consistency
import Multiplayer.Proofs.World.News
import Multiplayer.Proofs.World.Seats
import Multiplayer.Proofs.World.Timeless
import Multiplayer.Routing.Handler
import Multiplayer.Routing.Registry
import Multiplayer.Routing.Routes
import Multiplayer.Routing.Scope
import Multiplayer.Session.Credential
import Multiplayer.Session.Directory
import Multiplayer.Session.Error
import Multiplayer.Session.Heartbeat
import Multiplayer.Session.Session
import Multiplayer.Session.Settings
import Multiplayer.Stream.Assembler
import Multiplayer.Stream.ByteSource
import Multiplayer.Stream.Control
import Multiplayer.Stream.Frame
import Multiplayer.Stream.FrameKind
import Multiplayer.Text.Base64
import Multiplayer.Text.Hex
import Multiplayer.Text.Hidden
import Multiplayer.Text.Quoted
import Multiplayer.Text.Utf8
import Multiplayer.Time.Clock
import Multiplayer.Time.Duration
import Multiplayer.Time.Instant
import Multiplayer.Time.Timestamp
import Multiplayer.Transport.Error
import Multiplayer.Transport.Network
import Multiplayer.Transport.Pipe
import Multiplayer.Transport.Socket
import Multiplayer.Transport.Transport
import Multiplayer.Wire.Cursor
import Multiplayer.Wire.Error
import Multiplayer.Wire.Item
import Multiplayer.Wire.Packet
import Multiplayer.Wire.Shape
import Multiplayer.World.Identifier
import Multiplayer.World.Lobby
import Multiplayer.World.Notification
import Multiplayer.World.Room
import Multiplayer.World.Status
import Multiplayer.World.User
import Multiplayer.Proofs.World.Seating
import Multiplayer.Proofs.World.OwnUser
import Multiplayer.Proofs.Client.Failures
import Multiplayer.Proofs.Client.Silence
import Multiplayer.Proofs.World.Locking
import Multiplayer.Proofs.Wire.Filling
import Multiplayer.Proofs.Stream.Framing
import Multiplayer.Proofs.Wire.Passing
import Multiplayer.Proofs.Wire.Canonical
import Multiplayer.Proofs.Wire.Truncation
import Multiplayer.Proofs.Wire.Advancing
import Multiplayer.Proofs.Wire.Resting
import Multiplayer.Proofs.Time.Rounding
import Multiplayer.Proofs.Time.Epoch
import Multiplayer.Proofs.Stream.Samples
import Multiplayer.Proofs.Wire.Bytewise
import Multiplayer.Proofs.Stream.Registers
import Multiplayer.Proofs.World.UnknownRooms
import Multiplayer.Proofs.World.UserUpdates
import Multiplayer.Proofs.Wire.Spelling
import Multiplayer.Proofs.World.Commuting
import Multiplayer.Proofs.World.Snapshots
import Multiplayer.Proofs.Routing.FanOut
import Multiplayer.Proofs.Text.Base64
import Multiplayer.Proofs.Text.Lossy
import Multiplayer.Proofs.Session.Layers
import Multiplayer.Proofs.Session.Keys
import Multiplayer.Proofs.Message.UserMessage
import Multiplayer.Proofs.Session.Documents
import Multiplayer.Proofs.Stream.Bounds
