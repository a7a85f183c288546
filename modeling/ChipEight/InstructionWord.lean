/-!
# Instruction words

A program is a sequence of 16-bit words, each stored with its high byte first. The digits of a word
in base 16 are its family, `x`, `y` and `n`; the last two digits together are its low byte and the
last three its address. Every field is read by division and remainder.
-/

namespace ChipEight

/-- One of the sixteen byte registers. -/
abbrev Register := Fin 16

/-- A twelve-bit memory address, as an instruction names it. -/
abbrev Address := Fin 4096

instance Register.neZero : @NeZero Nat Zero.ofOfNat0 16 := Nat.instNeZeroSucc

instance Address.neZero : @NeZero Nat Zero.ofOfNat0 4096 := Nat.instNeZeroSucc

@[ext] structure Word where
  bits : UInt16
  deriving DecidableEq

namespace Word

def ofNat (n : Nat) : Word := ⟨UInt16.ofNat n⟩

def toNat (w : Word) : Nat := w.bits.toNat

/-- The word that two neighbouring bytes of memory hold. -/
def ofBytes (high low : UInt8) : Word := ofNat (256 * high.toNat + low.toNat)

/-- The first digit, which groups the instructions into families. -/
def family (w : Word) : Fin 16 := Fin.ofNat 16 (w.toNat / 4096)

def x (w : Word) : Register := Fin.ofNat 16 (w.toNat / 256)

def y (w : Word) : Register := Fin.ofNat 16 (w.toNat / 16)

def n (w : Word) : Fin 16 := Fin.ofNat 16 w.toNat

def lowByte (w : Word) : UInt8 := UInt8.ofNat w.toNat

def address (w : Word) : Address := Fin.ofNat 4096 w.toNat

def ofAddress (family : Fin 16) (a : Address) : Word :=
  ofNat (4096 * family.val + a.val)

def ofRegisterByte (family : Fin 16) (x : Register) (k : UInt8) : Word :=
  ofNat (4096 * family.val + 256 * x.val + k.toNat)

def ofDigits (family x y n : Fin 16) : Word :=
  ofNat (4096 * family.val + 256 * x.val + 16 * y.val + n.val)

theorem toNat_lt (w : Word) : w.toNat < 65536 := w.bits.toNat_lt

theorem toNat_ofNat (n : Nat) : (ofNat n).toNat = n % 65536 := by
  simp [ofNat, toNat]

theorem toNat_inj {v w : Word} (h : v.toNat = w.toNat) : v = w :=
  Word.ext (UInt16.toNat_inj.1 h)

end Word
end ChipEight
