/-!
# Hexadecimal text

Numbers are shown with the digits `0` to `9` and `A` to `F`, most significant first. A width asks
for leading zeros; a number that needs more digits than the width keeps them all.
-/

namespace ChipEight.HexadecimalText

/-- The shortest hexadecimal text of a number, in upper case; zero is one digit. -/
def digits (n : Nat) : List Char :=
  (Nat.toDigits 16 n).map Char.toUpper

/-- The text of a number with at least `width` digits. -/
def padded (width n : Nat) : String :=
  String.ofList (List.replicate (width - (digits n).length) '0' ++ digits n)

/-- The text of a number as an address is written: `0x` and at least four digits. -/
def address (n : Nat) : String :=
  "0x" ++ padded 4 n

end ChipEight.HexadecimalText
