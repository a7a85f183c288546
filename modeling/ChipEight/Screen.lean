/-!
# The screen

64 by 32 pixels, each on or off. A row is a vector of 64 bits, the leftmost pixel in the highest
bit. Sprites are drawn by exclusive or: a set bit of a sprite flips the pixel it covers. Both axes
wrap, so a sprite that leaves the screen on one side comes back on the other, and one of more than
32 rows covers its first rows again.
-/

namespace ChipEight

/-- The pixels, row by row from the top. -/
@[ext] structure Screen where
  rows : Vector (BitVec 64) 32

namespace Screen

def width : Nat := 64

def height : Nat := 32

def blank : Screen := ⟨Vector.replicate 32 0⟩

def row (s : Screen) (y : Nat) : BitVec 64 := s.rows[y % 32]

/-- Whether the pixel at a position is on; positions wrap on both axes. -/
def pixel (s : Screen) (x y : Nat) : Bool := (s.row y).getMsbD (x % 64)

/-- The pixels of a row that a sprite byte covers when its first bit lies at column `x`. -/
def rowMask (x : Nat) (b : UInt8) : BitVec 64 :=
  ((b.toBitVec.setWidth 64) <<< 56).rotateRight (x % 64)

theorem getMsbD_rowMask (x : Nat) (b : UInt8) {i : Nat} (hi : i < 64) :
    (rowMask x b).getMsbD i = b.toBitVec.getMsbD ((i + 64 - x % 64) % 64) := by
  have hx : x % 64 < 64 := Nat.mod_lt _ (by decide)
  have unrotated : ∀ k, ((b.toBitVec.setWidth 64) <<< 56).getMsbD k = b.toBitVec.getMsbD k := by
    intro k
    simp only [BitVec.getMsbD_shiftLeft, BitVec.getMsbD_setWidth]
    by_cases h : k < 8
    · simp
    · simp [BitVec.getMsbD_of_ge b.toBitVec k (by omega)]
  rw [rowMask, BitVec.getMsbD_rotateRight]
  simp only [hi, decide_true, Bool.true_and, Nat.mod_mod, unrotated]
  split
  · rw [show 64 + i - x % 64 = i + 64 - x % 64 by omega]
  · rw [show (i + 64 - x % 64) % 64 = i - x % 64 by omega]

/-- Flips the pixels that one sprite byte covers, and tells whether one of them was on. -/
def drawRow (s : Screen) (x y : Nat) (b : UInt8) : Screen × Bool :=
  (⟨s.rows.set (y % 32) (s.row y ^^^ rowMask x b) (Nat.mod_lt y (by decide))⟩,
    s.row y &&& rowMask x b != 0)

/-- Draws a sprite, one byte a row, with its top left corner at a position. The flag of the
result tells whether a pixel that was on was turned off on the way. -/
def draw (s : Screen) (x y : Nat) : List UInt8 → Screen × Bool
  | [] => (s, false)
  | b :: rest =>
    let first := s.drawRow x y b
    let others := first.1.draw x (y + 1) rest
    (others.1, first.2 || others.2)

end Screen
end ChipEight
