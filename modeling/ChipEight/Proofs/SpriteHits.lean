import ChipEight.Proofs.PixelFlips
import ChipEight.Proofs.StateAccess
import Mathlib.Algebra.BigOperators.Group.Finset.Basic
import Mathlib.Algebra.BigOperators.Group.Finset.Sigma
import Mathlib.Algebra.BigOperators.Intervals
import Mathlib.Algebra.Order.BigOperators.Group.Finset

/-!
# Hits of a sprite

How a sprite changes the screen, said without the order of drawing: by the number of its set bits
that fall on each pixel. A sprite of more rows than the screen falls on the same pixels repeatedly,
so the number can exceed one; up to 32 rows it cannot.
-/

namespace ChipEight

namespace Screen

/-- The number of set bits of a sprite that fall on a pixel: of the pairs of a row and a bit,
counted from the top and from the left, those whose bit is set and whose place, going around both
edges, is that pixel. -/
def hits (x y : Nat) (sprite : List UInt8) (p : Position) : Nat :=
  ((Finset.range sprite.length ×ˢ Finset.range 8).filter fun c =>
    (sprite.getD c.1 0).toBitVec.getMsbD c.2 = true ∧
      (x + c.2) % 64 = p.1.val ∧ (y + c.1) % 32 = p.2.val).card

private theorem countP_range (n : Nat) (q : Nat → Bool) :
    (List.range n).countP q = ∑ i ∈ Finset.range n, if q i = true then 1 else 0 := by
  induction n with
  | zero => rfl
  | succ n ih =>
    rw [List.range_succ, List.countP_append, ih, Finset.sum_range_succ, List.countP_singleton]

theorem count_rowCells (x y : Nat) (b : UInt8) (p : Position) :
    (rowCells x y b).count p = ∑ bit ∈ Finset.range 8,
      if b.toBitVec.getMsbD bit = true ∧ (x + bit) % 64 = p.1.val ∧ y % 32 = p.2.val
      then 1 else 0 := by
  rw [rowCells, List.count, List.countP_map, List.countP_filter, countP_range]
  apply Finset.sum_congr rfl
  intro bit _
  obtain ⟨px, py⟩ := p
  simp [Position.wrap, Fin.ext_iff, and_comm]

theorem hits_cons (x y : Nat) (b : UInt8) (rest : List UInt8) (p : Position) :
    hits x y (b :: rest) p = (rowCells x y b).count p + hits x (y + 1) rest p := by
  rw [hits, Finset.card_filter, Finset.sum_product, List.length_cons, Finset.sum_range_succ',
    count_rowCells, hits, Finset.card_filter, Finset.sum_product, Nat.add_comm]
  simp [Nat.add_comm, Nat.add_left_comm]

/-- A pixel occurs among the flips of a sprite once for every hit. -/
theorem count_spriteCells (x y : Nat) (sprite : List UInt8) (p : Position) :
    (spriteCells x y sprite).count p = hits x y sprite p := by
  induction sprite generalizing y with
  | nil => rfl
  | cons b rest ih => rw [spriteCells, List.count_append, ih, hits_cons]

theorem hits_le_one {sprite : List UInt8} (h : sprite.length ≤ 32) (x y : Nat) (p : Position) :
    hits x y sprite p ≤ 1 := by
  apply Finset.card_le_one.2
  rintro ⟨row, bit⟩ hc ⟨row', bit'⟩ hd
  simp only [Finset.mem_filter, Finset.mem_product, Finset.mem_range] at hc hd
  apply Prod.ext <;> dsimp only <;> omega

end Screen

open Screen

/-- A drawing in terms of hits, for sprites of any length and places of any size, and the
instruction that draws: it draws the bytes at the index register, at the place that its registers
held before, and sets the flag register and nothing else. -/
theorem draw_by_hits :
    (∀ (s : Screen) (x y : Nat) (sprite : List UInt8),
      (∀ p, (s.draw x y sprite).1.lit p = (s.lit p ^^ decide (Odd (hits x y sprite p)))) ∧
      ((s.draw x y sprite).2 = true ↔
        ∃ p, (1 ≤ hits x y sprite p ∧ s.lit p = true) ∨ 2 ≤ hits x y sprite p) ∧
      (sprite.length ≤ 32 →
        (∀ p, hits x y sprite p ≤ 1) ∧
        ((s.draw x y sprite).2 = true ↔ ∃ p, hits x y sprite p = 1 ∧ s.lit p = true))) ∧
    (∀ (s : State) (keypad : Keypad) (randomByte : UInt8) (x y : Register) (n : Fin 16),
      s.index.toNat + n.val ≤ Memory.size ∨ n = 0 →
      ∃ sprite : List UInt8, sprite.length = n.val ∧
        (∀ k < n.val, sprite[k]? = s.memory.bytes[s.index.toNat + k]?) ∧
        let drawn := s.screen.draw (s.register x).toNat (s.register y).toNat sprite
        (Instruction.draw x y n).execute keypad randomByte s = .ok { s with
          screen := drawn.1
          registers := s.registers.set 0xF (if drawn.2 then 1 else 0) } ∧
        (n = 0 → drawn = (s.screen, false))) := by
  refine ⟨fun s x y sprite => ?_, fun s keypad randomByte x y n hn => ?_⟩
  · have pixels (p : Position) :
        (s.draw x y sprite).1.lit p = (s.lit p ^^ decide (Odd (hits x y sprite p))) := by
      rw [draw_eq_flipAll, lit_flipAll, count_spriteCells]
    have collides : (s.draw x y sprite).2 = true ↔
        ∃ p, (1 ≤ hits x y sprite p ∧ s.lit p = true) ∨ 2 ≤ hits x y sprite p := by
      simp only [draw_eq_flipAll, flipAll_collides_iff, count_spriteCells]
    refine ⟨pixels, collides, fun hrows => ?_⟩
    have once (p : Position) := hits_le_one hrows x y p
    refine ⟨once, collides.trans (exists_congr fun p => ?_)⟩
    have := once p
    constructor
    · rintro (⟨hit, hon⟩ | twice)
      · exact ⟨by omega, hon⟩
      · omega
    · rintro ⟨hit, hon⟩
      exact .inl ⟨by omega, hon⟩
  · have inside : Memory.Inside s.index.toNat n.val := by
      rcases hn with hn | rfl
      · exact .inr hn
      · exact .inl rfl
    refine ⟨s.memory.window s.index.toNat n.val, Memory.length_window, ?_, ?_, ?_⟩
    · intro k hk
      exact Memory.getElem?_window hk inside
    · rw [Instruction.execute, State.drawSprite_eq, if_pos inside]
      rfl
    · rintro rfl
      rfl

/-- At the start of a machine, a glyph is drawn without a hit on a pixel that is on. -/
theorem draw_by_hits_glyph :
    ([0xF0, 0x90, 0x90, 0x90, 0xF0] : List UInt8).length ≤ 32 ∧
    (∀ p, hits 62 31 [0xF0, 0x90, 0x90, 0x90, 0xF0] p ≤ 1) ∧
    ∃ sprite : List UInt8, sprite.length = 5 ∧
      Fault.of? ((Instruction.draw 0 0 5).execute .released 0 State.initial) = none := by
  obtain ⟨once, _⟩ :=
    (draw_by_hits.1 .blank 62 31 [0xF0, 0x90, 0x90, 0x90, 0xF0]).2.2 (by decide)
  obtain ⟨sprite, hlength, _, hexecute, _⟩ :=
    draw_by_hits.2 State.initial .released 0 0 0 5 (by decide)
  refine ⟨by decide, once, sprite, hlength, ?_⟩
  rw [hexecute, Fault.of?_ok]

end ChipEight
