import ChipEight.Execution
import ChipEight.ProgramSource
import ChipEight.RandomSource

/-!
# The machine

A state, a keypad and a source of random words. A host presses keys, loads programs, lets the
machine take steps and lets its timers tick. Every operation that can fail gives either a whole new
machine or a fault; the machine it started from is then still there, unchanged.
-/

namespace ChipEight

structure Machine where
  state : State
  keypad : Keypad
  random : RandomSource

namespace Machine

def initial (random : RandomSource) : Machine := ⟨.initial, .released, random⟩

/-- Forgets everything but the source of random words, which goes on where it is. -/
def reset (m : Machine) : Machine := initial m.random

/-- Places a program in memory. One that does not fit is refused. -/
def load (m : Machine) (program : List UInt8) : Except Fault Machine :=
  if Memory.programCapacity < program.length then
    .error (.romTooLarge program.length Memory.programCapacity)
  else
    (m.state.memory.write Memory.programStart program).map fun memory =>
      { m with state := { m.state with memory } }

def loadFrom (m : Machine) (source : List Delivery) : Except Fault Machine :=
  match Delivery.gather source with
  | .ok program => m.load program
  | .error fault => .error fault

def press (m : Machine) (key : UInt8) (down : Bool) : Except Fault Machine :=
  (m.keypad.set key down).map fun keypad => { m with keypad }

def step (m : Machine) : Except Fault Machine :=
  match m.state.fetch with
  | .error fault => .error fault
  | .ok (word, fetched) =>
    match word.instruction with
    | .error fault => .error fault
    | .ok i =>
      (i.execute m.keypad m.random.nextByte fetched).map fun state =>
        { m with state, random := m.random.skip i.randomWords }

def tick (m : Machine) : Machine :=
  { m with state := { m.state with timers := m.state.timers.tick } }

def beeps (m : Machine) : Bool := m.state.timers.beeps

end Machine
end ChipEight
