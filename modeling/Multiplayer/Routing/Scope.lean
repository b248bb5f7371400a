/-!
# Scopes of middleware

Middleware is meant for all codes that agree in their leading bits: for none of the bits, so every
code, up to all sixteen, so a single one.
-/

namespace Multiplayer

def maxLevel : Nat := 16

/-- A code with all but its `level` leading bits cleared. -/
def leadingBits (level : Nat) (code : UInt16) : UInt16 :=
  let unit := Nat.pow 2 (maxLevel - level)
  UInt16.ofNat (code.toNat / unit * unit)

/-- A number of leading bits, and what they are. -/
structure Scope where
  level : Nat
  bits : UInt16
deriving DecidableEq, Repr

namespace Scope

def containing (level : Nat) (code : UInt16) : Scope := ⟨level, leadingBits level code⟩

end Scope

end Multiplayer
