import Multiplayer.Text.Hex
import Multiplayer.Text.Hidden

/-!
# Quoted text

A text between double quotes on one line: quotes and backslashes are escaped, and so are the
characters that would not be seen (`Multiplayer.Text.Hidden`).
-/

namespace Multiplayer.Quoted

/-- The escape of a character that is not shown as itself: its scalar value in braces. -/
def escape (c : Char) : List Char :=
  ['\\', 'u', '\x7b'] ++ Hex.digits 1 c.toNat ++ ['\x7d']

/-- How a character stands between quotes. -/
def quoteChar (c : Char) : List Char :=
  if c = '"' then ['\\', '"']
  else if c = '\\' then ['\\', '\\']
  else if c = '\n' then ['\\', 'n']
  else if c = '\r' then ['\\', 'r']
  else if c = '\t' then ['\\', 't']
  else if c = '\x00' then ['\\', '0']
  else if Hidden.contains c then escape c
  else [c]

def quote (text : String) : String :=
  String.ofList ('"' :: text.toList.flatMap quoteChar ++ ['"'])

end Multiplayer.Quoted
