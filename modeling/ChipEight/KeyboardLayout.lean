/-!
# The keyboard layout

The keypad lies on the left of a keyboard, four keys in each of four rows:

    1 2 3 4        1 2 3 C
    Q W E R        4 5 6 D
    A S D F        7 8 9 E
    Z X C V        A 0 B F

Letters count in either case. Only the letters `a` to `z` have a case here, so no character outside
ASCII has a key.
-/

namespace ChipEight.KeyboardLayout

/-- The characters that have a key, with their keys, row by row. -/
def layout : List (Char × UInt8) := [
  ('1', 0x1), ('2', 0x2), ('3', 0x3), ('4', 0xC),
  ('Q', 0x4), ('W', 0x5), ('E', 0x6), ('R', 0xD),
  ('A', 0x7), ('S', 0x8), ('D', 0x9), ('F', 0xE),
  ('Z', 0xA), ('X', 0x0), ('C', 0xB), ('V', 0xF)]

def key? (c : Char) : Option UInt8 := layout.lookup c.toUpper

/-- The keys of some characters, or the first character without one, as it was written. -/
def keys : List Char → Except Char (List UInt8)
  | [] => .ok []
  | c :: rest =>
    match key? c with
    | some key => (keys rest).map (key :: ·)
    | none => .error c

end ChipEight.KeyboardLayout
