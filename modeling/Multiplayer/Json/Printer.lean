import Multiplayer.Json.Value
import Multiplayer.Text.Hex

/-!
# Printing JSON

The compact form: no blanks, members in order.  In strings only the quote, the backslash and the
control characters are escaped, those with a letter of their own by that letter; an unpaired
surrogate can only stand as an escape.
-/

namespace Multiplayer.Json

/-- The escape of a code unit. -/
def unitEscape (unit : Nat) : List Char := '\\' :: 'u' :: Hex.digits 4 unit

/-- How a character stands in a string. -/
def printChar (c : Char) : List Char :=
  if c = '"' then ['\\', '"']
  else if c = '\\' then ['\\', '\\']
  else if c = '\x08' then ['\\', 'b']
  else if c = '\x0c' then ['\\', 'f']
  else if c = '\n' then ['\\', 'n']
  else if c = '\r' then ['\\', 'r']
  else if c = '\t' then ['\\', 't']
  else if c < ' ' then unitEscape c.toNat
  else [c]

/-- How a piece stands in a string. -/
def Piece.print : Piece → List Char
  | .scalar c => printChar c
  | .surrogate unit => unitEscape unit

/-- A string with its quotes. -/
def printString (pieces : List Piece) : List Char := '"' :: pieces.flatMap Piece.print ++ ['"']

namespace Value

mutual

/-- The compact form of a value. -/
def print : Value → List Char
  | .null => ['n', 'u', 'l', 'l']
  | .bool true => ['t', 'r', 'u', 'e']
  | .bool false => ['f', 'a', 'l', 's', 'e']
  | .number literal => literal
  | .string pieces => printString pieces
  | .array elements => '[' :: printElements elements ++ [']']
  | .object members => '\x7b' :: printMembers members ++ ['\x7d']

/-- Elements with commas between them. -/
def printElements : List Value → List Char
  | [] => []
  | [element] => print element
  | element :: elements => print element ++ ',' :: printElements elements

/-- Members with commas between them. -/
def printMembers : List (List Piece × Value) → List Char
  | [] => []
  | [(key, value)] => printString key ++ ':' :: print value
  | (key, value) :: members => printString key ++ ':' :: print value ++ ',' :: printMembers members

end

/-- The compact form of a value as a text. -/
def toText (value : Value) : String := String.ofList value.print

end Value

end Multiplayer.Json
