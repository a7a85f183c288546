import ChipEight.HexadecimalText
import ChipEight.Instruction

/-!
# Faults

Everything that can go wrong in a machine, by cause. The first four stop a running program; the
others refuse something that a host asks for. `Fault.message` is the only place that words them.
-/

namespace ChipEight

inductive Fault where
  /-- The word has no instruction; its four digits are reported with it. -/
  | unimplemented (word : Word) (digits : UInt8 × UInt8 × UInt8 × UInt8)
  /-- An access would leave memory; `address` is the first address outside. -/
  | outOfBounds (address : Nat)
  | stackOverflow (pc : UInt16) (depth : Nat)
  | stackUnderflow (pc : UInt16)
  | invalidKey (index : UInt8)
  | romTooLarge (size limit : Nat)
  /-- The source of a program could not be read to its end. -/
  | unreadableRom (reason : String)
  deriving DecidableEq

namespace Word

def digits (w : Word) : UInt8 × UInt8 × UInt8 × UInt8 :=
  (UInt8.ofNat w.family.val, UInt8.ofNat w.x.val, UInt8.ofNat w.y.val, UInt8.ofNat w.n.val)

/-- The instruction of a word, or the fault that it has none. -/
def instruction (w : Word) : Except Fault Instruction :=
  match Instruction.ofWord? w with
  | some i => .ok i
  | none => .error (.unimplemented w w.digits)

def text (w : Word) : String := HexadecimalText.padded 4 w.toNat

end Word

namespace Fault

/-- Four digits with a space between neighbours; a byte above 15 shows both its digits. -/
def digitsText (d : UInt8 × UInt8 × UInt8 × UInt8) : String :=
  " ".intercalate ([d.1, d.2.1, d.2.2.1, d.2.2.2].map fun b => HexadecimalText.padded 1 b.toNat)

def message : Fault → String
  | .unimplemented word digits =>
      "unimplemented opcode " ++ HexadecimalText.address word.toNat ++
        " (nibbles " ++ digitsText digits ++ ")"
  | .outOfBounds address =>
      "memory access out of bounds at address " ++ HexadecimalText.address address
  | .stackOverflow pc depth =>
      "stack overflow: call at " ++ HexadecimalText.address pc.toNat ++ " with " ++
        toString depth ++ " return addresses already stored"
  | .stackUnderflow pc =>
      "stack underflow: return at " ++ HexadecimalText.address pc.toNat ++
        " with an empty call stack"
  | .invalidKey index =>
      "invalid key index " ++ toString index.toNat ++ ", expected 0..=15"
  | .romTooLarge size limit =>
      "ROM is too large (" ++ toString size ++ " bytes), max size is " ++
        toString limit ++ " bytes"
  | .unreadableRom reason => "unable to read ROM: " ++ reason

end Fault
end ChipEight
