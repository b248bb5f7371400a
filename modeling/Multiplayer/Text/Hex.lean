/-!
# Hexadecimal numerals

Lower-case digits, padded with zeros to a least width, behind the marker `0x`.
-/

namespace Multiplayer.Hex

/-- The lower-case hexadecimal digits of `n`, padded with zeros to at least `width` digits. -/
def digits (width n : Nat) : List Char :=
  let shown := Nat.toDigits 16 n
  List.replicate (width - shown.length) '0' ++ shown

/-- A hexadecimal numeral of at least `width` digits, with its marker. -/
def numeral (width n : Nat) : String := "0x" ++ String.ofList (digits width n)

end Multiplayer.Hex
