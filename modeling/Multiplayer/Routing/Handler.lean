import Multiplayer.Attempt
import Multiplayer.Stream.Frame

/-!
# Handlers

A handler takes a frame, may change a state, and succeeds or fails.  Middleware makes one handler
from another; it decides whether, when and how often the inner one runs.

* `runAll` runs every callback of a list on one argument, each on the state that the earlier ones
  have left, and reports the first failure.
-/

namespace Multiplayer

/-- Why a handler or a registration fails. -/
inductive RoutingError where
  | wire (cause : WireError)
  /-- Middleware was offered for more leading bits than a code has. -/
  | invalidLevel (level : UInt8)
  | alreadySealed
  | failed (message : String)
deriving DecidableEq, Repr

def RoutingError.message : RoutingError → String
  | .wire cause => cause.message
  | .invalidLevel level => s!"middleware level {level.toNat} is outside 0..=16"
  | .alreadySealed => "dispatch table is already built; registration rejected"
  | .failed message => "handler failed: " ++ message

/-- Something that a handler does to a state of type `σ`. -/
abbrev Action (σ α : Type) := Attempt RoutingError σ α

abbrev Callback (σ α : Type) := α → Action σ Unit

abbrev Handler (σ : Type) := Callback σ Frame

/-- A way to make a handler from another. -/
abbrev Middleware (σ : Type) := Handler σ → Handler σ

/-- Runs all callbacks in order.  A failure does not keep the later ones from running; the first
failure is the result. -/
def runAll {σ α : Type} : List (Callback σ α) → Callback σ α
  | [], _ => return ()
  | callback :: callbacks, argument => fun s =>
    let (first, s) := (callback argument).run.run s
    let (others, s) := (runAll callbacks argument).run.run s
    (match first with
      | .ok () => others
      | .error e => .error e, s)

/-- Lifts the result of reading a payload. -/
def Action.ofRead {σ α : Type} (result : Except WireError α) : Action σ α :=
  Attempt.ofExcept (result.mapError .wire)

end Multiplayer
