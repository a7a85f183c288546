import ChipEight.Keypad
import ChipEight.State

/-!
# Execution of instructions

What each instruction does to a state whose program counter already points behind it. Where an
instruction sets the flag register as well as its own register, the flag is set last, so it wins
when the two are the same. The random byte is supplied by the caller; only `Instruction.random`
looks at it.
-/

namespace ChipEight

/-- The result of an operation on two registers, and the flag where the operation sets one:
a carry, the absence of a borrow, or the bit that a shift drops. Shifts take the second operand. -/
def Arithmetic.result (op : Arithmetic) (a b : UInt8) : UInt8 × Option Bool :=
  match op with
  | .copy => (b, none)
  | .or => (a ||| b, none)
  | .and => (a &&& b, none)
  | .xor => (a ^^^ b, none)
  | .add => (a + b, some (decide (255 < a.toNat + b.toNat)))
  | .subtract => (a - b, some (decide (b.toNat ≤ a.toNat)))
  | .shiftRight => (b >>> 1, some (b.toNat % 2 == 1))
  | .subtractFrom => (b - a, some (decide (a.toNat ≤ b.toNat)))
  | .shiftLeft => (b <<< 1, some (decide (128 ≤ b.toNat)))

def Condition.holds (c : Condition) (keypad : Keypad) (s : State) : Bool :=
  match c with
  | .equalsByte x k => s.register x == k
  | .differsByte x k => s.register x != k
  | .equals x y => s.register x == s.register y
  | .differs x y => s.register x != s.register y
  | .pressed x => keypad.isPressed (s.register x)
  | .released x => !keypad.isPressed (s.register x)

def decimalDigits (b : UInt8) : List UInt8 := [b / 100, b / 10 % 10, b % 10]

/-- The index register counts modulo this number where an instruction adds a register to it. -/
def indexModulus : Nat := 0x8000

namespace State

/-- Combines two registers into the first one, and the flag register where there is a flag. -/
def combine (s : State) (op : Arithmetic) (x y : Register) : State :=
  match op.result (s.register x) (s.register y) with
  | (value, none) => s.setRegister x value
  | (value, some flag) => (s.setRegister x value).setFlag flag

def skipNext (s : State) : State := { s with pc := s.pc + 2 }

/-- Stores the lowest pressed key, or goes back to the same instruction while there is none. -/
def awaitKey (s : State) (keypad : Keypad) (x : Register) : State :=
  match keypad.firstPressed? with
  | some key => s.setRegister x (UInt8.ofNat key.val)
  | none => { s with pc := s.pc - 2 }

/-- Draws the `n` bytes at the index register at the position that two registers hold. -/
def drawSprite (s : State) (x y : Register) (n : Nat) : Except Fault State :=
  match s.memory.read s.index.toNat n with
  | .ok sprite =>
    let drawn := s.screen.draw (s.register x).toNat (s.register y).toNat sprite
    .ok ({ s with screen := drawn.1 }.setFlag drawn.2)
  | .error fault => .error fault

def store (s : State) (data : List UInt8) : Except Fault State :=
  match s.memory.write s.index.toNat data with
  | .ok memory => .ok { s with memory }
  | .error fault => .error fault

def loadThrough (s : State) (x : Register) : Except Fault State :=
  match s.memory.read s.index.toNat (x.val + 1) with
  | .ok bytes => .ok { s with registers := overlay s.registers 0 bytes }
  | .error fault => .error fault

end State

namespace Instruction

def randomWords : Instruction → Nat
  | .random _ _ => 1
  | _ => 0

def execute (i : Instruction) (keypad : Keypad) (randomByte : UInt8) (s : State) :
    Except Fault State :=
  match i with
  | .idle => .ok s
  | .clear => .ok { s with screen := .blank }
  | .ret => s.pop.map fun (address, next) => { next with pc := address }
  | .jump a => .ok { s with pc := UInt16.ofNat a.val }
  | .call a => (s.push s.pc).map fun next => { next with pc := UInt16.ofNat a.val }
  | .skip c => .ok (if c.holds keypad s then s.skipNext else s)
  | .load x k => .ok (s.setRegister x k)
  | .addByte x k => .ok (s.setRegister x (s.register x + k))
  | .arithmetic op x y => .ok (s.combine op x y)
  | .setIndex a => .ok { s with index := UInt16.ofNat a.val }
  | .jumpFrom a => .ok { s with pc := UInt16.ofNat ((s.register 0).toNat + a.val) }
  | .random x k => .ok (s.setRegister x (randomByte &&& k))
  | .draw x y n => s.drawSprite x y n.val
  | .readDelay x => .ok (s.setRegister x s.timers.delay)
  | .awaitKey x => .ok (s.awaitKey keypad x)
  | .setDelay x => .ok { s with timers := { s.timers with delay := s.register x } }
  | .setSound x => .ok { s with timers := { s.timers with sound := s.register x } }
  | .advanceIndex x =>
    .ok { s with index := UInt16.ofNat ((s.index.toNat + (s.register x).toNat) % indexModulus) }
  | .pointAtGlyph x =>
    .ok { s with index := UInt16.ofNat ((s.register x).toNat * Memory.glyphHeight) }
  | .storeDigits x => s.store (decimalDigits (s.register x))
  | .storeThrough x => (s.store (s.registersThrough x)).map (·.advanceIndexBy (x.val + 1))
  | .loadThrough x => (s.loadThrough x).map (·.advanceIndexBy (x.val + 1))

end Instruction
end ChipEight
