import ChipEight.InstructionWord

/-!
# Instructions

The instruction table. `Instruction.ofWord?` reads a word and gives nothing when no instruction has
that word; `Instruction.toWord` writes the word of an instruction. Registers and addresses are
bounded by their types, so every value of `Instruction` has a word.
-/

namespace ChipEight

/-- The operations on two registers of family 8. The result goes to the first register. -/
inductive Arithmetic where
  | copy | or | and | xor | add | subtract | shiftRight | subtractFrom | shiftLeft
  deriving DecidableEq

namespace Arithmetic

def ofSelector? (n : Fin 16) : Option Arithmetic :=
  match n.val with
  | 0x0 => some .copy
  | 0x1 => some .or
  | 0x2 => some .and
  | 0x3 => some .xor
  | 0x4 => some .add
  | 0x5 => some .subtract
  | 0x6 => some .shiftRight
  | 0x7 => some .subtractFrom
  | 0xE => some .shiftLeft
  | _ => none

def selector : Arithmetic → Fin 16
  | .copy => 0x0
  | .or => 0x1
  | .and => 0x2
  | .xor => 0x3
  | .add => 0x4
  | .subtract => 0x5
  | .shiftRight => 0x6
  | .subtractFrom => 0x7
  | .shiftLeft => 0xE

end Arithmetic

inductive Condition where
  | equalsByte (x : Register) (k : UInt8)
  | differsByte (x : Register) (k : UInt8)
  | equals (x y : Register)
  | differs (x y : Register)
  | pressed (x : Register)
  | released (x : Register)
  deriving DecidableEq

/-- An instruction of the machine. `x` and `y` name registers, `k` is a byte and `a` an address. -/
inductive Instruction where
  | idle
  | clear
  /-- Goes on at the address on top of the call stack. -/
  | ret
  | jump (a : Address)
  /-- Goes on at an address and remembers where to come back. -/
  | call (a : Address)
  /-- Leaves out the next instruction if a condition holds. -/
  | skip (c : Condition)
  | load (x : Register) (k : UInt8)
  /-- Adds a byte to a register, without a flag. -/
  | addByte (x : Register) (k : UInt8)
  | arithmetic (op : Arithmetic) (x y : Register)
  | setIndex (a : Address)
  /-- Goes on at an address plus the first register. -/
  | jumpFrom (a : Address)
  /-- Sets a register to the bits of a random byte that a mask selects. -/
  | random (x : Register) (k : UInt8)
  /-- Draws the `n` bytes at the index register as a sprite. -/
  | draw (x y : Register) (n : Fin 16)
  | readDelay (x : Register)
  | awaitKey (x : Register)
  | setDelay (x : Register)
  | setSound (x : Register)
  | advanceIndex (x : Register)
  /-- Points the index register at a built-in glyph. -/
  | pointAtGlyph (x : Register)
  /-- Stores the three decimal digits of a register. -/
  | storeDigits (x : Register)
  /-- Stores the registers up to `x`. -/
  | storeThrough (x : Register)
  /-- Loads the registers up to `x`. -/
  | loadThrough (x : Register)
  deriving DecidableEq

namespace Instruction

def plain? (a : Address) : Option Instruction :=
  match a.val with
  | 0x000 => some .idle
  | 0x0E0 => some .clear
  | 0x0EE => some .ret
  | _ => none

def keySkip? (x : Register) (k : UInt8) : Option Instruction :=
  match k.toNat with
  | 0x9E => some (.skip (.pressed x))
  | 0xA1 => some (.skip (.released x))
  | _ => none

def transfer? (x : Register) (k : UInt8) : Option Instruction :=
  match k.toNat with
  | 0x07 => some (.readDelay x)
  | 0x0A => some (.awaitKey x)
  | 0x15 => some (.setDelay x)
  | 0x18 => some (.setSound x)
  | 0x1E => some (.advanceIndex x)
  | 0x29 => some (.pointAtGlyph x)
  | 0x33 => some (.storeDigits x)
  | 0x55 => some (.storeThrough x)
  | 0x65 => some (.loadThrough x)
  | _ => none

/-- The instruction of a word, if the table has one. -/
def ofWord? (w : Word) : Option Instruction :=
  match w.family.val with
  | 0x0 => plain? w.address
  | 0x1 => some (.jump w.address)
  | 0x2 => some (.call w.address)
  | 0x3 => some (.skip (.equalsByte w.x w.lowByte))
  | 0x4 => some (.skip (.differsByte w.x w.lowByte))
  | 0x5 => if w.n = 0 then some (.skip (.equals w.x w.y)) else none
  | 0x6 => some (.load w.x w.lowByte)
  | 0x7 => some (.addByte w.x w.lowByte)
  | 0x8 => (Arithmetic.ofSelector? w.n).map (fun op => .arithmetic op w.x w.y)
  | 0x9 => if w.n = 0 then some (.skip (.differs w.x w.y)) else none
  | 0xA => some (.setIndex w.address)
  | 0xB => some (.jumpFrom w.address)
  | 0xC => some (.random w.x w.lowByte)
  | 0xD => some (.draw w.x w.y w.n)
  | 0xE => keySkip? w.x w.lowByte
  | 0xF => transfer? w.x w.lowByte
  | _ => none

def toWord : Instruction → Word
  | .idle => .ofAddress 0x0 0x000
  | .clear => .ofAddress 0x0 0x0E0
  | .ret => .ofAddress 0x0 0x0EE
  | .jump a => .ofAddress 0x1 a
  | .call a => .ofAddress 0x2 a
  | .skip (.equalsByte x k) => .ofRegisterByte 0x3 x k
  | .skip (.differsByte x k) => .ofRegisterByte 0x4 x k
  | .skip (.equals x y) => .ofDigits 0x5 x y 0x0
  | .load x k => .ofRegisterByte 0x6 x k
  | .addByte x k => .ofRegisterByte 0x7 x k
  | .arithmetic op x y => .ofDigits 0x8 x y op.selector
  | .skip (.differs x y) => .ofDigits 0x9 x y 0x0
  | .setIndex a => .ofAddress 0xA a
  | .jumpFrom a => .ofAddress 0xB a
  | .random x k => .ofRegisterByte 0xC x k
  | .draw x y n => .ofDigits 0xD x y n
  | .skip (.pressed x) => .ofRegisterByte 0xE x 0x9E
  | .skip (.released x) => .ofRegisterByte 0xE x 0xA1
  | .readDelay x => .ofRegisterByte 0xF x 0x07
  | .awaitKey x => .ofRegisterByte 0xF x 0x0A
  | .setDelay x => .ofRegisterByte 0xF x 0x15
  | .setSound x => .ofRegisterByte 0xF x 0x18
  | .advanceIndex x => .ofRegisterByte 0xF x 0x1E
  | .pointAtGlyph x => .ofRegisterByte 0xF x 0x29
  | .storeDigits x => .ofRegisterByte 0xF x 0x33
  | .storeThrough x => .ofRegisterByte 0xF x 0x55
  | .loadThrough x => .ofRegisterByte 0xF x 0x65

end Instruction
end ChipEight
