import ChipEight.Screen

/-!
# Frames as text

A frame is written as 32 lines of 64 cells. A cell is two characters wide, so that pixels look
square in a terminal: two full blocks for a pixel that is on and two spaces for one that is off.
-/

namespace ChipEight.Screen

def cell (on : Bool) : List Char := if on then ['█', '█'] else [' ', ' ']

def lineCharacters (s : Screen) (y : Nat) : List Char :=
  (List.range width).flatMap (fun x => cell (s.pixel x y)) ++ ['\n']

def text (s : Screen) : String :=
  String.ofList ((List.range height).flatMap s.lineCharacters)

end ChipEight.Screen
