import ChipEight.CellOverlay
import ChipEight.Fault

/-!
# Memory

4096 bytes. The glyphs of the sixteen hexadecimal digits lie at its beginning and programs are
placed from address 512 on. An access that would leave memory reaches no byte at all and names the
first address outside; an access of no bytes is allowed everywhere.
-/

namespace ChipEight

structure Memory where
  bytes : Vector UInt8 4096

namespace Memory

def size : Nat := 4096

def programStart : Nat := 0x200

/-- The number of bytes from the start of a program to the end of memory. -/
def programCapacity : Nat := size - programStart

def glyphHeight : Nat := 5

/-- The glyphs of the digits `0` to `F`, four pixels wide, in the high half of each byte. -/
def glyphs : List UInt8 := [
  0xF0, 0x90, 0x90, 0x90, 0xF0,
  0x20, 0x60, 0x20, 0x20, 0x70,
  0xF0, 0x10, 0xF0, 0x80, 0xF0,
  0xF0, 0x10, 0xF0, 0x10, 0xF0,
  0x90, 0x90, 0xF0, 0x10, 0x10,
  0xF0, 0x80, 0xF0, 0x10, 0xF0,
  0xF0, 0x80, 0xF0, 0x90, 0xF0,
  0xF0, 0x10, 0x20, 0x40, 0x40,
  0xF0, 0x90, 0xF0, 0x90, 0xF0,
  0xF0, 0x90, 0xF0, 0x10, 0xF0,
  0xF0, 0x90, 0xF0, 0x90, 0x90,
  0xE0, 0x90, 0xE0, 0x90, 0xE0,
  0xF0, 0x80, 0x80, 0x80, 0xF0,
  0xE0, 0x90, 0x90, 0x90, 0xE0,
  0xF0, 0x80, 0xF0, 0x80, 0xF0,
  0xF0, 0x80, 0xF0, 0x80, 0x80]

def initial : Memory := ⟨overlay (Vector.replicate 4096 0) 0 glyphs⟩

/-- The fault of an access from `address` on that leaves memory. -/
def outside (address : Nat) : Fault := .outOfBounds (max address size)

def read (m : Memory) (address length : Nat) : Except Fault (List UInt8) :=
  if length = 0 then .ok []
  else if h : address + length ≤ 4096 then
    .ok (List.ofFn fun i : Fin length => m.bytes[address + i.val])
  else .error (outside address)

def write (m : Memory) (address : Nat) (data : List UInt8) : Except Fault Memory :=
  if data = [] ∨ address + data.length ≤ 4096 then .ok ⟨overlay m.bytes address data⟩
  else .error (outside address)

/-- The instruction word at `address`, high byte first. -/
def wordAt (m : Memory) (address : Nat) : Except Fault Word :=
  if h : address + 2 ≤ 4096 then
    .ok (Word.ofBytes m.bytes[address] m.bytes[address + 1])
  else .error (outside address)

end Memory
end ChipEight
