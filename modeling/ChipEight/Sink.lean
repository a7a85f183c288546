/-!
# Sinks

Where bytes are written. A sink may have room for a limited number of bytes: a write that needs
more is accepted in part and then fails. Whether flushing fails is a property of the sink.
-/

namespace ChipEight

inductive SinkFailure where
  | full
  | notFlushed
  deriving DecidableEq

namespace SinkFailure

def message : SinkFailure → String
  | .full => "sink is full"
  | .notFlushed => "flush failed"

end SinkFailure

/-- The bytes accepted so far, the room that is left, if it is limited, and whether flushing
fails. -/
structure Sink where
  written : ByteArray
  room : Option Nat
  flushFails : Bool

namespace Sink

def reliable : Sink := ⟨.empty, none, false⟩

/-- Writes as many of some bytes as there is room for. -/
def write (s : Sink) (data : ByteArray) : Sink × Option SinkFailure :=
  match s.room with
  | none => ({ s with written := s.written ++ data }, none)
  | some room =>
    if data.size ≤ room then
      ({ s with written := s.written ++ data, room := some (room - data.size) }, none)
    else
      ({ s with written := s.written ++ data.extract 0 room, room := some 0 }, some .full)

def writeAll (s : Sink) : List ByteArray → Sink × Option SinkFailure
  | [] => (s, none)
  | piece :: rest =>
    match s.write piece with
    | (next, none) => next.writeAll rest
    | (next, some failure) => (next, some failure)

def flush (s : Sink) : Option SinkFailure :=
  if s.flushFails then some .notFlushed else none

end Sink
end ChipEight
