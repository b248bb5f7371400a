import Multiplayer.Json.Reader
import Multiplayer.Json.Printer

/-!
# Types written as JSON documents

`Document α` holds the two directions between a type and JSON values.  Reading is strict about
the values of a type and lenient about unknown members.

* A record is an object with each known member at most once, or an array of the members in order.
* An enumeration is the name of a case, or an object with that name as only member and null.
* A number must be a natural number in range, written without fraction and exponent.
-/

namespace Multiplayer.Json

/-- A type with a JSON form. -/
class Document (α : Type) where
  toJson : α → Value
  ofJson? : Value → Option α

/-- The compact JSON text of a value. -/
def render {α : Type} [Document α] (a : α) : String := (Document.toJson a).toText

/-- The value that a JSON text denotes. -/
def read? {α : Type} [Document α] (text : String) : Option α := parse? text >>= Document.ofJson?

namespace Value

def text? : Value → Option String
  | .string pieces => textOf? pieces
  | _ => none

/-- The number that a literal of digits only denotes. -/
def nat? : Value → Option Nat
  | .number literal =>
    if literal.all Char.isDigit then
      some (literal.foldl (fun n c => 10 * n + (c.toNat - '0'.toNat)) 0)
    else none
  | _ => none

/-- A natural number below a bound. -/
def natBelow? (bound : Nat) (value : Value) : Option Nat :=
  value.nat?.filter (· < bound)

/-- The case that a name or an object with that name denotes. -/
def case? {α : Type} (cases : List (String × α)) : Value → Option α
  | .string pieces => textOf? pieces >>= (List.lookup · cases)
  | .object [(key, .null)] => textOf? key >>= (List.lookup · cases)
  | _ => none

/-- The value of a member that may occur once: no value if it is absent. -/
def member? (members : List (String × Value)) (name : String) : Option (Option Value) :=
  match members.filter (·.1 = name) with
  | [] => some none
  | [(_, value)] => some (some value)
  | _ => none

/-- The values of the named members of a record, in the order of the names; none at a name stands
for an absent member. -/
def record? (names : List String) : Value → Option (List (Option Value))
  | .object members => do
    let members ← members.mapM fun (key, value) => (textOf? key).map (·, value)
    names.mapM (member? members)
  | .array elements =>
    if elements.length ≤ names.length then
      some (elements.map some ++ List.replicate (names.length - elements.length) none)
    else none
  | _ => none

end Value

/-- Reads a member that must be present. -/
def required {α : Type} [Document α] (member : Option Value) : Option α :=
  member >>= Document.ofJson?

/-- Reads a member that has a default. -/
def optional {α : Type} [Document α] (absent : α) : Option Value → Option α
  | none => some absent
  | some value => Document.ofJson? value

instance : Document String where
  toJson := Value.ofText
  ofJson? := Value.text?

instance : Document UInt16 where
  toJson n := Value.ofNat n.toNat
  ofJson? value := (value.natBelow? UInt16.size).map UInt16.ofNat

instance : Document UInt64 where
  toJson n := Value.ofNat n.toNat
  ofJson? value := (value.natBelow? UInt64.size).map UInt64.ofNat

/-- Null stands for no value. -/
instance {α : Type} [Document α] : Document (Option α) where
  toJson
    | none => .null
    | some a => Document.toJson a
  ofJson?
    | .null => some none
    | value => (Document.ofJson? value).map some

end Multiplayer.Json
