import ChipEight.Screen
import Mathlib.Algebra.Ring.Parity
import Mathlib.Data.List.Nodup
import Mathlib.Order.Fin.Basic

/-!
# Drawing as a sequence of flips

A row of a sprite changes a whole row of the screen at once. Here the same drawing is taken apart
into flips of single pixels, from the top row down and from left to right, where a flip collides if
its pixel was on. After any sequence of flips a pixel differs from before exactly when it was
flipped an odd number of times, and a flip collided exactly when some pixel was flipped twice or
was on and flipped.
-/

namespace ChipEight.Screen

abbrev Position := Fin 64 × Fin 32

/-- The pixel that a place stands for, going around both edges. -/
def Position.wrap (x y : Nat) : Position := (Fin.ofNat 64 x, Fin.ofNat 32 y)

def lit (s : Screen) (p : Position) : Bool := s.pixel p.1.val p.2.val

theorem lit_eq (s : Screen) (p : Position) : s.lit p = s.rows[p.2.val].getMsbD p.1.val := by
  simp only [lit, pixel, row, Nat.mod_eq_of_lt p.1.isLt, Nat.mod_eq_of_lt p.2.isLt]

theorem ext_lit {s t : Screen} (h : ∀ p, s.lit p = t.lit p) : s = t := by
  apply Screen.ext
  apply Vector.ext
  intro y hy
  apply BitVec.eq_of_getMsbD_eq
  intro x hx
  have hp := h (⟨x, hx⟩, ⟨y, hy⟩)
  rwa [lit_eq, lit_eq] at hp

def flip (s : Screen) (p : Position) : Screen :=
  ⟨s.rows.set p.2.val (s.rows[p.2.val] ^^^ BitVec.twoPow 64 (63 - p.1.val))⟩

theorem lit_flip (s : Screen) (p q : Position) :
    (s.flip p).lit q = (s.lit q ^^ decide (p = q)) := by
  obtain ⟨⟨px, hpx⟩, py⟩ := p
  obtain ⟨⟨qx, hqx⟩, qy⟩ := q
  simp only [lit_eq, flip]
  by_cases hrow : py = qy
  · subst hrow
    have hcolumn : (63 - px < 64 ∧ qx = 64 - (63 - px) - 1) ↔ px = qx := by omega
    simp [← Bool.decide_and, hcolumn]
  · have hval : py.val ≠ qy.val := fun h => hrow (Fin.ext h)
    rw [Vector.getElem_set_ne _ _ hval]
    simp [hrow]

/-- Flips pixels one after another, and tells whether one of them was on when it was flipped. -/
def flipAll (s : Screen) : List Position → Screen × Bool
  | [] => (s, false)
  | p :: rest =>
    let others := (s.flip p).flipAll rest
    (others.1, s.lit p || others.2)

theorem flipAll_append (s : Screen) (first second : List Position) :
    s.flipAll (first ++ second) =
      (((s.flipAll first).1.flipAll second).1,
        (s.flipAll first).2 || ((s.flipAll first).1.flipAll second).2) := by
  induction first generalizing s with
  | nil => simp [flipAll]
  | cons p rest ih => simp [flipAll, ih, Bool.or_assoc]

theorem lit_flipAll (s : Screen) (cells : List Position) (p : Position) :
    (s.flipAll cells).1.lit p = (s.lit p ^^ decide (Odd (cells.count p))) := by
  induction cells generalizing s with
  | nil => simp [flipAll]
  | cons q rest ih =>
    rw [flipAll, ih, lit_flip, List.count_cons]
    by_cases hq : q = p
    · have parity : decide (Odd (rest.count p + 1)) = !decide (Odd (rest.count p)) := by
        simp only [Nat.odd_add_one, decide_not]
      simp [hq, parity]
    · simp [hq]

theorem flipAll_collides_iff (s : Screen) (cells : List Position) :
    (s.flipAll cells).2 = true ↔
      ∃ p, (1 ≤ cells.count p ∧ s.lit p = true) ∨ 2 ≤ cells.count p := by
  induction cells generalizing s with
  | nil => simp [flipAll]
  | cons q rest ih =>
    rw [flipAll, Bool.or_eq_true, ih]
    -- The first flip turns `q` over for the flips behind it and no other pixel, so `q` is
    -- counted apart.
    have later (p : Position) (hp : q ≠ p) :
        (1 ≤ rest.count p ∧ (s.flip q).lit p = true) ∨ 2 ≤ rest.count p ↔
          (1 ≤ (q :: rest).count p ∧ s.lit p = true) ∨ 2 ≤ (q :: rest).count p := by
      simp [lit_flip, hp]
    have now : (s.lit q = true ∨ (1 ≤ rest.count q ∧ (s.flip q).lit q = true) ∨
          2 ≤ rest.count q) ↔
        (1 ≤ (q :: rest).count q ∧ s.lit q = true) ∨ 2 ≤ (q :: rest).count q := by
      simp only [lit_flip, List.count_cons, beq_self_eq_true, if_true, decide_true]
      generalize rest.count q = n
      cases s.lit q with
      | false =>
        simp
        omega
      | true => simp
    constructor
    · rintro (hq | ⟨p, hp⟩)
      · exact ⟨q, now.1 (.inl hq)⟩
      · by_cases hqp : q = p
        · subst hqp
          exact ⟨q, now.1 (.inr hp)⟩
        · exact ⟨p, (later p hqp).1 hp⟩
    · rintro ⟨p, hp⟩
      by_cases hqp : q = p
      · subst hqp
        exact (now.2 hp).imp_right fun h => ⟨q, h⟩
      · exact .inr ⟨p, (later p hqp).2 hp⟩

/-- The pixels that a byte covers, from the left. -/
def rowCells (x y : Nat) (b : UInt8) : List Position :=
  ((List.range 8).filter fun bit => b.toBitVec.getMsbD bit).map fun bit =>
    .wrap (x + bit) y

theorem nodup_rowCells (x y : Nat) (b : UInt8) : (rowCells x y b).Nodup := by
  apply List.Nodup.map_on
  · intro i hi j hj h
    have hcolumn : (x + i) % 64 = (x + j) % 64 := congrArg (fun p : Position => p.1.val) h
    have hi8 := List.mem_range.1 (List.mem_of_mem_filter hi)
    have hj8 := List.mem_range.1 (List.mem_of_mem_filter hj)
    omega
  · exact List.nodup_range.filter _

theorem mem_rowCells {x y : Nat} {b : UInt8} {p : Position} :
    p ∈ rowCells x y b ↔ y % 32 = p.2.val ∧ (rowMask x b).getMsbD p.1.val = true := by
  obtain ⟨⟨px, hpx⟩, ⟨py, hpy⟩⟩ := p
  rw [getMsbD_rowMask x b hpx]
  simp only [rowCells, Position.wrap, List.mem_map, List.mem_filter, List.mem_range, Prod.mk.injEq,
    Fin.ext_iff, Fin.val_ofNat]
  constructor
  · rintro ⟨bit, ⟨hbit, hset⟩, hx, hy⟩
    refine ⟨hy, ?_⟩
    rwa [show (px + 64 - x % 64) % 64 = bit by omega]
  · rintro ⟨hy, hset⟩
    have hbit : (px + 64 - x % 64) % 64 < 8 := by
      by_contra hge
      rw [BitVec.getMsbD_of_ge _ _ (by omega)] at hset
      cases hset
    exact ⟨_, ⟨hbit, hset⟩, by omega, hy⟩

theorem lit_drawRow (s : Screen) (x y : Nat) (b : UInt8) (p : Position) :
    (s.drawRow x y b).1.lit p = (s.lit p ^^ decide (p ∈ rowCells x y b)) := by
  have hy : y % 32 < 32 := Nat.mod_lt y (by decide)
  rw [lit_eq, lit_eq, drawRow]
  by_cases hrow : y % 32 = p.2.val
  · simp [row, hrow, mem_rowCells]
  · rw [Vector.getElem_set_ne _ _ hrow]
    simp [hrow, mem_rowCells]

private theorem ne_zero_iff {r : BitVec 64} :
    (r != 0) = true ↔ ∃ i < 64, r.getMsbD i = true := by
  rw [bne_iff_ne]
  constructor
  · intro h
    by_contra hnone
    apply h
    apply BitVec.eq_of_getMsbD_eq
    intro i hi
    rw [BitVec.ofNat_eq_ofNat, BitVec.getMsbD_zero]
    exact Bool.eq_false_iff.2 fun hset => hnone ⟨i, hi, hset⟩
  · rintro ⟨i, _, hset⟩ rfl
    simp at hset

theorem drawRow_collides_iff (s : Screen) (x y : Nat) (b : UInt8) :
    (s.drawRow x y b).2 = true ↔ ∃ p, p ∈ rowCells x y b ∧ s.lit p = true := by
  have hy : y % 32 < 32 := Nat.mod_lt y (by decide)
  rw [drawRow, ne_zero_iff]
  constructor
  · rintro ⟨i, hi, hon⟩
    rw [BitVec.getMsbD_and, Bool.and_eq_true] at hon
    refine ⟨(⟨i, hi⟩, ⟨y % 32, hy⟩), mem_rowCells.2 ⟨rfl, hon.2⟩, ?_⟩
    rw [lit_eq]
    exact hon.1
  · rintro ⟨p, hp, hon⟩
    obtain ⟨hrow, hmask⟩ := mem_rowCells.1 hp
    refine ⟨p.1.val, p.1.isLt, ?_⟩
    rw [lit_eq] at hon
    simp only [BitVec.getMsbD_and, row, hrow, hon, hmask, Bool.and_self]

theorem drawRow_eq_flipAll (s : Screen) (x y : Nat) (b : UInt8) :
    s.drawRow x y b = s.flipAll (rowCells x y b) := by
  have hcount (p : Position) :
      (rowCells x y b).count p = if p ∈ rowCells x y b then 1 else 0 := (nodup_rowCells x y b).count
  apply Prod.ext
  · apply ext_lit
    intro p
    rw [lit_drawRow, lit_flipAll, hcount]
    by_cases hp : p ∈ rowCells x y b <;> simp [hp]
  · rw [Bool.eq_iff_iff, drawRow_collides_iff, flipAll_collides_iff]
    apply exists_congr
    intro p
    rw [hcount]
    by_cases hp : p ∈ rowCells x y b <;> simp [hp]

/-- The pixels that a sprite covers, row by row; a pixel occurs once for every time it is hit. -/
def spriteCells (x y : Nat) : List UInt8 → List Position
  | [] => []
  | b :: rest => rowCells x y b ++ spriteCells x (y + 1) rest

/-- A sprite is drawn by flipping the pixels that it covers. -/
theorem draw_eq_flipAll (s : Screen) (x y : Nat) (sprite : List UInt8) :
    s.draw x y sprite = s.flipAll (spriteCells x y sprite) := by
  induction sprite generalizing s y with
  | nil => rfl
  | cons b rest ih => rw [draw, spriteCells, flipAll_append, ih, drawRow_eq_flipAll]

end ChipEight.Screen
