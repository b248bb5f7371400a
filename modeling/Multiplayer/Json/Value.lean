/-!
# JSON values

A JSON string is a sequence of scalar values and unpaired surrogates: an escape may name half of
a surrogate pair, and then the string is well formed but no text.  A number keeps its literal, so
that `1`, `1.0` and `1e0` stay apart.
-/

namespace Multiplayer.Json

/-- One element of a JSON string. -/
inductive Piece where
  | scalar (c : Char)
  /-- A surrogate without its partner. -/
  | surrogate (unit : Nat)
deriving DecidableEq, Repr, Inhabited

/-- A JSON value.  Members of an object keep their order and may repeat. -/
inductive Value where
  | null
  | bool (b : Bool)
  | number (literal : List Char)
  | string (pieces : List Piece)
  | array (elements : List Value)
  | object (members : List (List Piece × Value))
deriving Repr, Inhabited

def piecesOf (text : String) : List Piece := text.toList.map .scalar

/-- The character of a piece, unless it is a surrogate. -/
def Piece.char? : Piece → Option Char
  | .scalar c => some c
  | .surrogate _ => none

/-- The text of a JSON string without surrogates. -/
def textOf? (pieces : List Piece) : Option String :=
  (pieces.mapM Piece.char?).map String.ofList

theorem textOf?_piecesOf (text : String) : textOf? (piecesOf text) = some text := by
  have h : ∀ cs : List Char, (cs.map Piece.scalar).mapM Piece.char? = some cs := by
    intro cs
    induction cs with
    | nil => rfl
    | cons c cs ih => simp [Piece.char?, ih]
  simp [textOf?, piecesOf, h]

namespace Value

def ofText (text : String) : Value := .string (piecesOf text)

def ofNat (n : Nat) : Value := .number (Nat.toDigits 10 n)

/-- An object with the given members. -/
def ofMembers (members : List (String × Value)) : Value :=
  .object (members.map fun (key, value) => (piecesOf key, value))

end Value

end Multiplayer.Json
