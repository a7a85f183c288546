import ChipEight.CallStack
import ChipEight.Memory
import ChipEight.Screen
import ChipEight.Timers

/-!
# The state of a machine

Everything an instruction can change: sixteen byte registers of which the last is the flag
register, the index register, the program counter, the call stack, the timers, memory and the
screen. A state is a value, so an instruction that fails half way leaves nothing behind.
-/

namespace ChipEight

structure State where
  registers : Vector UInt8 16
  index : UInt16
  pc : UInt16
  stack : CallStack
  timers : Timers
  memory : Memory
  screen : Screen

/-- The register that holds carries, borrows and collisions. -/
def flagRegister : Register := 0xF

namespace State

def initial : State where
  registers := Vector.replicate 16 0
  index := 0
  pc := UInt16.ofNat Memory.programStart
  stack := .empty
  timers := .stopped
  memory := .initial
  screen := .blank

def register (s : State) (x : Register) : UInt8 := s.registers[x.val]

def setRegister (s : State) (x : Register) (b : UInt8) : State :=
  { s with registers := s.registers.set x.val b x.isLt }

/-- Sets the flag register to one or zero. -/
def setFlag (s : State) (flag : Bool) : State :=
  s.setRegister flagRegister (if flag then 1 else 0)

def registersThrough (s : State) (x : Register) : List UInt8 :=
  s.registers.toList.take (x.val + 1)

def advanceIndexBy (s : State) (count : Nat) : State :=
  { s with index := s.index + UInt16.ofNat count }

def push (s : State) (address : UInt16) : Except Fault State :=
  match s.stack.push? address with
  | some stack => .ok { s with stack }
  | none => .error (.stackOverflow s.pc s.stack.depth)

def pop (s : State) : Except Fault (UInt16 × State) :=
  match s.stack.pop? with
  | some (address, stack) => .ok (address, { s with stack })
  | none => .error (.stackUnderflow s.pc)

/-- Reads the word at the program counter and moves the counter behind it. -/
def fetch (s : State) : Except Fault (Word × State) :=
  match s.memory.wordAt s.pc.toNat with
  | .ok word => .ok (word, { s with pc := s.pc + 2 })
  | .error fault => .error fault

end State
end ChipEight
