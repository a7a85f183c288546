import ChipEight.Proofs.SpriteHits

/-!
# The order of drawings

Several sprites drawn one after another. Each drawing tells whether it hit a pixel that was on, and
which of them do depends on their order. What they come to together does not: every pixel is flipped
as often as all the sprites hit it, and some drawing collides exactly when some pixel was hit twice
or was on and hit.
-/

namespace ChipEight

/-- A sprite and the place of its top left corner. -/
structure PlacedSprite where
  x : Nat
  y : Nat
  sprite : List UInt8

namespace PlacedSprite

def cells (a : PlacedSprite) : List Screen.Position := Screen.spriteCells a.x a.y a.sprite

/-- The number of set bits of the sprite that fall on a pixel. -/
def hits (a : PlacedSprite) (p : Screen.Position) : Nat := Screen.hits a.x a.y a.sprite p

theorem count_cells (a : PlacedSprite) (p : Screen.Position) : a.cells.count p = a.hits p :=
  Screen.count_spriteCells a.x a.y a.sprite p

end PlacedSprite

namespace Screen

def drawPlaced (s : Screen) (a : PlacedSprite) : Screen × Bool := s.draw a.x a.y a.sprite

/-- Draws sprites one after another. The flags tell for each in turn whether its drawing turned off
a pixel that was on. -/
def drawAll (s : Screen) : List PlacedSprite → Screen × List Bool
  | [] => (s, [])
  | a :: rest =>
    let first := s.drawPlaced a
    let others := first.1.drawAll rest
    (others.1, first.2 :: others.2)

/-- The number of set bits of several sprites that fall on a pixel. -/
def totalHits (placed : List PlacedSprite) (p : Position) : Nat :=
  (placed.map fun a => a.hits p).sum

theorem drawAll_eq_flipAll (s : Screen) (placed : List PlacedSprite) :
    let flipped := s.flipAll (placed.flatMap PlacedSprite.cells)
    (s.drawAll placed).1 = flipped.1 ∧ (true ∈ (s.drawAll placed).2 ↔ flipped.2 = true) := by
  induction placed generalizing s with
  | nil => simp [drawAll, flipAll]
  | cons a rest ih =>
    have first : s.flipAll a.cells = s.drawPlaced a := (draw_eq_flipAll s a.x a.y a.sprite).symm
    obtain ⟨hscreen, hcollides⟩ := ih (s.drawPlaced a).1
    rw [List.flatMap_cons, flipAll_append, first]
    refine ⟨hscreen, ?_⟩
    simp only [drawAll, List.mem_cons, hcollides, Bool.or_eq_true]
    exact or_congr_left eq_comm

theorem count_flatMap_cells (placed : List PlacedSprite) (p : Position) :
    (placed.flatMap PlacedSprite.cells).count p = totalHits placed p := by
  rw [List.count_flatMap, totalHits]
  exact congrArg List.sum (List.map_congr_left fun a _ => a.count_cells p)

theorem lit_drawAll (s : Screen) (placed : List PlacedSprite) (p : Position) :
    (s.drawAll placed).1.lit p = (s.lit p ^^ decide (Odd (totalHits placed p))) := by
  rw [(s.drawAll_eq_flipAll placed).1, lit_flipAll, count_flatMap_cells]

/-- Some drawing collides exactly when some pixel is hit and was on before all of them, or is hit
twice. -/
theorem drawAll_collides_iff (s : Screen) (placed : List PlacedSprite) :
    true ∈ (s.drawAll placed).2 ↔
      ∃ p, (1 ≤ totalHits placed p ∧ s.lit p = true) ∨ 2 ≤ totalHits placed p := by
  rw [(s.drawAll_eq_flipAll placed).2, flipAll_collides_iff]
  simp only [count_flatMap_cells]

theorem totalHits_perm {first second : List PlacedSprite} (h : first.Perm second) (p : Position) :
    totalHits first p = totalHits second p :=
  (h.map fun a : PlacedSprite => a.hits p).sum_nat

theorem drawAll_overlapping {s : Screen} {a b : PlacedSprite} (ha : (s.drawPlaced a).2 = false)
    (hoverlap : ∃ p, 1 ≤ a.hits p ∧ 1 ≤ b.hits p) : (s.drawAll [a, b]).2 = [false, true] := by
  obtain ⟨p, hap, hbp⟩ := hoverlap
  have htotal : totalHits [a, b] p = a.hits p + b.hits p := by simp [totalHits]
  have hflags : (s.drawAll [a, b]).2 = [false, ((s.drawPlaced a).1.drawPlaced b).2] := by
    rw [← ha]
    rfl
  have hsome := (s.drawAll_collides_iff [a, b]).2 ⟨p, .inr (by omega)⟩
  rw [hflags] at hsome ⊢
  simpa using hsome

end Screen

open Screen

/-- Sprites of any length can be drawn in any order: the screen behind all of them is the same, and
so is whether one of them collided. Which one did is decided by the order: of two that overlap and
would not collide alone, it is always the later one. -/
theorem drawing_order_irrelevant (s : Screen) :
    (∀ first second : List PlacedSprite, first.Perm second →
      (s.drawAll first).1 = (s.drawAll second).1 ∧
      (true ∈ (s.drawAll first).2 ↔ true ∈ (s.drawAll second).2)) ∧
    (∀ a b : PlacedSprite, (s.drawPlaced a).2 = false → (s.drawPlaced b).2 = false →
      (∃ p, 1 ≤ a.hits p ∧ 1 ≤ b.hits p) →
      (s.drawAll [a, b]).2 = [false, true] ∧ (s.drawAll [b, a]).2 = [false, true]) := by
  refine ⟨fun first second h => ⟨?_, ?_⟩, fun a b ha hb hoverlap => ⟨?_, ?_⟩⟩
  · apply ext_lit
    intro p
    rw [lit_drawAll, lit_drawAll, totalHits_perm h]
  · simp only [drawAll_collides_iff, totalHits_perm h]
  · exact drawAll_overlapping ha hoverlap
  · exact drawAll_overlapping hb (hoverlap.imp fun _ => And.symm)

/-- Two glyphs that overlap across the right edge and a column taller than the screen, drawn on a
blank screen in two orders. -/
theorem drawing_order_irrelevant_glyphs :
    let zero : PlacedSprite := ⟨62, 31, [0xF0, 0x90, 0x90, 0x90, 0xF0]⟩
    let one : PlacedSprite := ⟨0, 30, [0x20, 0x60, 0x20, 0x20, 0x70]⟩
    let column : PlacedSprite := ⟨1, 0, List.replicate 33 0x80⟩
    [zero, one, column].Perm [column, one, zero] ∧
    (Screen.blank.drawAll [zero, one, column]).1 = (Screen.blank.drawAll [column, one, zero]).1 ∧
    (Screen.blank.drawAll [zero, one, column]).2 = [false, true, true] ∧
    true ∈ (Screen.blank.drawAll [column, one, zero]).2 ∧
    (Screen.blank.drawAll [zero, one]).2 = [false, true] ∧
    (Screen.blank.drawAll [one, zero]).2 = [false, true] := by
  intro zero one column
  obtain ⟨permuted, overlapping⟩ := drawing_order_irrelevant .blank
  have perm : [zero, one, column].Perm [column, one, zero] := List.reverse_perm [column, one, zero]
  obtain ⟨hscreen, hcollides⟩ := permuted _ _ perm
  have flags : (Screen.blank.drawAll [zero, one, column]).2 = [false, true, true] := by
    decide +kernel
  have overlap : ∃ p, 1 ≤ zero.hits p ∧ 1 ≤ one.hits p := ⟨(1, 31), by decide +kernel⟩
  obtain ⟨later, later'⟩ :=
    overlapping zero one (by decide +kernel) (by decide +kernel) overlap
  exact ⟨perm, hscreen, flags, hcollides.1 (by simp [flags]), later, later'⟩

end ChipEight
