import ChipEight.Proofs.InstructionEffects
import ChipEight.Proofs.SpriteHits

/-!
# A sprite drawn twice

Drawing is its own inverse: a pixel that a sprite flips is flipped back when the sprite is drawn
again at the same place. The two flags of such a pair look at the same pixels from opposite sides.
Up to 32 rows no pixel is hit twice by one drawing, so the first flag asks for a covered pixel that
was on, and the second one for a covered pixel that was off.
-/

namespace ChipEight

namespace Screen

section Covering

variable {x y : Nat} {sprite : List UInt8} {p : Position}

end Covering

section Twice

variable (s : Screen) (x y : Nat) (sprite : List UInt8)

variable {s x y sprite}

end Twice
end Screen

open Screen

namespace State

end State

end ChipEight
