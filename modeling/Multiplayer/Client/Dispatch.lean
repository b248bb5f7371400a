import Multiplayer.Client.Client

/-!
# Leading frames to their handlers

A frame first starts an event in the lobby.  If the session defines its data the built-in handler
of its code runs, and then those that the application has registered run in any case.  A handler
that fails stops nothing: the state that it leaves counts, its result does not.

Only the state of the handlers changes.
-/

namespace Multiplayer.Client

variable {τ δ α : Type}

/-- Runs what a table has for a frame.  The state that it leaves counts, the result does not. -/
def settle (action? : Option (Action (HandlerState α) Unit)) (s : HandlerState α) :
    HandlerState α :=
  match action? with
  | some action => (action.run.run s).2
  | none => s

/-- Leads a frame to its handlers: to a built-in one if the session defines the data, and then to
those that the application has registered. -/
def dispatch (now : Instant) (frame : Frame) (c : Client τ δ α) : Client τ δ α :=
  match c.table with
  | none => c
  | some table =>
    let begun := { c.state with lobby := c.state.lobby.beginEvent frame.code, now }
    let builtin := if frame.isBuiltin then settle (table.dispatchBuiltin? frame) begun else begun
    { c with state := settle (table.dispatch? frame) builtin }

theorem dispatch_session (now : Instant) (frame : Frame) (c : Client τ δ α) :
    (c.dispatch now frame).session = c.session := by
  unfold dispatch
  split <;> rfl

theorem dispatch_transport (now : Instant) (frame : Frame) (c : Client τ δ α) :
    (c.dispatch now frame).transport = c.transport := by
  unfold dispatch
  split <;> rfl

end Multiplayer.Client
