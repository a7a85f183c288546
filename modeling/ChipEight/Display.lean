import ChipEight.FrameText
import ChipEight.Sink

/-!
# The display

Draws frames on a sink as text. A display that works in place moves the cursor home before each
frame, so that a terminal shows one frame over the other, and clears the terminal until a first
frame has been written whole. Any other display writes one frame behind the other.
-/

namespace ChipEight

/-- A sink for frames. `drawn` tells whether a frame has been written whole. -/
structure Display where
  inPlace : Bool
  drawn : Bool
  sink : Sink

namespace Display

def initial (inPlace : Bool) (sink : Sink) : Display := ⟨inPlace, false, sink⟩

def clearTerminal : String := "\x1b[2J"

def cursorHome : String := "\x1b[H"

/-- The texts that drawing a screen writes, in order. -/
def pieces (d : Display) (screen : Screen) : List String :=
  if d.inPlace then
    (if d.drawn then [] else [clearTerminal]) ++ [cursorHome, screen.text]
  else [screen.text]

/-- Draws a screen. The display counts as drawn once all bytes are written; flushing comes
after that. -/
def render (d : Display) (screen : Screen) : Display × Option SinkFailure :=
  match d.sink.writeAll ((d.pieces screen).map String.toUTF8) with
  | (sink, none) => ({ d with drawn := true, sink }, sink.flush)
  | (sink, some failure) => ({ d with sink }, some failure)

end Display
end ChipEight
