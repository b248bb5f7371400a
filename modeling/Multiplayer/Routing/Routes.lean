import Multiplayer.Routing.Handler
import Std.Data.ExtTreeMap

/-!
# Routes

Routes lead a decoded argument to the callbacks of its code.  There is no middleware: all
callbacks of the code run in the order in which they were added.
-/

namespace Multiplayer

structure Routes (σ α : Type) where
  table : Std.ExtTreeMap UInt16 (List (Callback σ α))

namespace Routes

variable {σ α : Type}

def empty : Routes σ α := ⟨∅⟩

instance : Inhabited (Routes σ α) := ⟨empty⟩

def add (routes : Routes σ α) (code : UInt16) (callback : Callback σ α) : Routes σ α :=
  ⟨routes.table.alter code fun callbacks => some (callbacks.getD [] ++ [callback])⟩

/-- What the callbacks of a code do with an argument, if there are any. -/
def invoke? (routes : Routes σ α) (code : UInt16) (argument : α) : Option (Action σ Unit) :=
  routes.table[code]?.map (runAll · argument)

def contains (routes : Routes σ α) (code : UInt16) : Bool := routes.table.contains code

def size (routes : Routes σ α) : Nat := routes.table.size

/-- The codes with a callback on one line, in order. -/
def summary (routes : Routes σ α) : String :=
  let codes := ", ".intercalate (routes.table.keys.map fun code => toString code.toNat)
  "Routes \x7b codes: [" ++ codes ++ "] \x7d"

end Routes

end Multiplayer
