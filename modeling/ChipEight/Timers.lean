/-!
# Timers

Two counters that fall by one a tick until they are zero. Programs read and set the delay timer;
the sound timer they only set, and the tick that takes it from one to zero beeps.
-/

namespace ChipEight

structure Timers where
  delay : UInt8
  sound : UInt8
  deriving DecidableEq

namespace Timers

def frequency : Nat := 60

/-- The usual number of instructions between two ticks. -/
def stepsPerTick : Nat := 10

def stopped : Timers := ⟨0, 0⟩

def countDown (b : UInt8) : UInt8 := if b = 0 then 0 else b - 1

def tick (t : Timers) : Timers := ⟨countDown t.delay, countDown t.sound⟩

def beeps (t : Timers) : Bool := t.sound == 1

end Timers
end ChipEight
