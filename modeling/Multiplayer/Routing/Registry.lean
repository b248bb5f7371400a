import Multiplayer.Routing.Handler
import Multiplayer.Routing.Scope
import Std.Data.ExtTreeMap

/-!
# Registration and dispatch

Handlers and middleware are registered, and then a table is built from them once and for all.  In
the table every code has one handler: the registered ones, one after another, inside the
middleware whose scope contains the code.  Middleware of a wider scope stands outside that of a
narrower one, and in one scope the one registered first stands outside.

Built-in handlers have a table of their own, and no middleware.
-/

namespace Multiplayer

abbrev HandlerMap (σ : Type) := Std.ExtTreeMap UInt16 (List (Handler σ))

structure Registry (σ : Type) where
  handlers : HandlerMap σ
  builtins : HandlerMap σ
  /-- Middleware with its scope, in the order of registration. -/
  middleware : List (Scope × Middleware σ)
  /-- Whether a table has been built; then nothing more is registered. -/
  isSealed : Bool

/-- One handler for each code that has any. -/
structure Table (σ : Type) where
  main : Std.ExtTreeMap UInt16 (Handler σ)
  builtin : Std.ExtTreeMap UInt16 (Handler σ)

namespace Registry

variable {σ : Type}

def empty : Registry σ := ⟨∅, ∅, [], false⟩

instance : Inhabited (Registry σ) := ⟨empty⟩

/-! ## Registration -/

def addTo (handlers : HandlerMap σ) (code : UInt16) (handler : Handler σ) : HandlerMap σ :=
  handlers.alter code fun registered => some (registered.getD [] ++ [handler])

def addHandler (r : Registry σ) (code : UInt16) (handler : Handler σ) :
    Except RoutingError (Registry σ) :=
  if r.isSealed then .error .alreadySealed
  else .ok { r with handlers := addTo r.handlers code handler }

def addBuiltin (r : Registry σ) (code : UInt16) (handler : Handler σ) :
    Except RoutingError (Registry σ) :=
  if r.isSealed then .error .alreadySealed
  else .ok { r with builtins := addTo r.builtins code handler }

/-- Registers middleware for the codes that share `level` leading bits with the given one. -/
def addMiddleware (r : Registry σ) (code : UInt16) (level : UInt8) (middleware : Middleware σ) :
    Except RoutingError (Registry σ) :=
  if r.isSealed then .error .alreadySealed
  else if maxLevel < level.toNat then .error (.invalidLevel level)
  else
    let scope := Scope.containing level.toNat code
    .ok { r with middleware := r.middleware ++ [(scope, middleware)] }

/-! ## Building the table -/

/-- One handler that runs those of a code in order.  A single one stands for itself. -/
def fanOut : List (Handler σ) → Handler σ
  | [only] => only
  | handlers => runAll handlers

/-- The middleware of a scope, in the order of registration. -/
def layersAt (r : Registry σ) (scope : Scope) : List (Middleware σ) :=
  (r.middleware.filter (·.1 = scope)).map (·.2)

/-- Puts a handler inside the middleware of a scope, the first registered outside. -/
def wrapAt (r : Registry σ) (scope : Scope) (handler : Handler σ) : Handler σ :=
  (r.layersAt scope).foldr (fun layer inner => layer inner) handler

/-- Puts the handler of a code inside the middleware of all levels from `level` down to zero. -/
def wrapFrom (r : Registry σ) (code : UInt16) : (level : Nat) → Handler σ → Handler σ
  | 0, handler => r.wrapAt (.containing 0 code) handler
  | level + 1, handler =>
    wrapFrom r code level (r.wrapAt (.containing (level + 1) code) handler)

def table (r : Registry σ) : Table σ where
  main := r.handlers.map fun code handlers => r.wrapFrom code maxLevel (fanOut handlers)
  builtin := r.builtins.map fun _ handlers => fanOut handlers

/-- Builds the table and seals the registry. -/
def build (r : Registry σ) : Table σ × Registry σ := (r.table, { r with isSealed := true })

end Registry

namespace Table

variable {σ : Type}

/-- What the handler of a frame's code does with it, if the code has one. -/
def dispatch? (t : Table σ) (frame : Frame) : Option (Action σ Unit) :=
  t.main[frame.code]?.map (· frame)

/-- What the built-in handler of a frame's code does with it, if the code has one. -/
def dispatchBuiltin? (t : Table σ) (frame : Frame) : Option (Action σ Unit) :=
  t.builtin[frame.code]?.map (· frame)

def handles (t : Table σ) (code : UInt16) : Bool := t.main.contains code

def handlesBuiltin (t : Table σ) (code : UInt16) : Bool := t.builtin.contains code

def size (t : Table σ) : Nat := t.main.size

end Table

end Multiplayer
