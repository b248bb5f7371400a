import Multiplayer.Message.UserMessage
import Multiplayer.Routing.Registry
import Multiplayer.Routing.Routes
import Multiplayer.World.Notification

/-!
# Reactions to what the server tells

A client reacts to twelve events by itself.  Eight notifications change the lobby.  The other four
carry user messages and error reports, which are led to what the application has subscribed to.

* A body that cannot be read changes nothing.
* A message or report that nobody has subscribed to is no failure.
-/

namespace Multiplayer

/-- What handlers see and may change: the lobby, and a state of the application. -/
structure HandlerState (α : Type) where
  lobby : Lobby
  /-- The time at which the current event is handled. -/
  now : Instant
  app : α

/-- What the application has subscribed to. -/
structure Subscriptions (α : Type) where
  messages : Routes (HandlerState α) UserMessage
  clientErrors : Routes (HandlerState α) ErrorReport
  serverErrors : Routes (HandlerState α) ErrorReport
deriving Inhabited

namespace Subscriptions

/-- The subscriptions to reports about one side. -/
def errors {α : Type} (subscriptions : Subscriptions α) :
    ErrorSource → Routes (HandlerState α) ErrorReport
  | .client => subscriptions.clientErrors
  | .server => subscriptions.serverErrors

end Subscriptions

namespace Reaction

variable {α : Type}

/-- Does to the lobby what a notification says. -/
def notify (event : Event) : Handler (HandlerState α) := fun frame => do
  match Notification.decoder? (← get).now event with
  | none => return ()
  | some decoder =>
    let notification ← Action.ofRead (frame.read decoder)
    modify fun s => { s with lobby := notification.apply s.lobby }

/-- Leads a user message to the subscriptions of its command. -/
def forward (subscriptions : Subscriptions α) : Handler (HandlerState α) := fun frame => do
  let message ← Action.ofRead (UserMessage.ofFrame frame)
  (subscriptions.messages.invoke? message.command message).getD (return ())

/-- Leads an error report to the subscriptions of its side and code. -/
def report (subscriptions : Subscriptions α) (source : ErrorSource) : Handler (HandlerState α) :=
  fun frame => do
    let report ← Action.ofRead (ErrorReport.ofFrame source frame)
    ((subscriptions.errors source).invoke? report.code report).getD (return ())

/-- All reactions, each with its event. -/
def all (subscriptions : Subscriptions α) : List (Event × Handler (HandlerState α)) :=
  Notification.events.map (fun event => (event, notify event)) ++
    [(.onUserMessage, forward subscriptions), (.onRoomUserMessage, forward subscriptions),
      (.onErrorClient, report subscriptions .client),
      (.onErrorServer, report subscriptions .server)]

/-- Registers all reactions as built-in handlers. -/
def install (subscriptions : Subscriptions α) (r : Registry (HandlerState α)) :
    Except RoutingError (Registry (HandlerState α)) :=
  (all subscriptions).foldlM (fun r (event, handler) => r.addBuiltin event.code handler) r

end Reaction

end Multiplayer
