import ChipEight.HiddenCharacters

/-!
# Quoted characters

A character between single quotes, as a message names it. The quote, the backslash, the tab, the
line ends and the null character have short escapes; other hidden characters are given by their
code point in hexadecimal.
-/

namespace ChipEight.QuotedCharacter

/-- A character as it stands between the quotes. -/
def escaped (c : Char) : String :=
  if c = '\x00' then "\\0"
  else if c = '\t' then "\\t"
  else if c = '\r' then "\\r"
  else if c = '\n' then "\\n"
  else if c = '\'' then "\\'"
  else if c = '\\' then "\\\\"
  else if HiddenCharacters.isHidden c then
    "\\u\x7b" ++ String.ofList (Nat.toDigits 16 c.toNat) ++ "\x7d"
  else c.toString

def quoted (c : Char) : String := "'" ++ escaped c ++ "'"

end ChipEight.QuotedCharacter
