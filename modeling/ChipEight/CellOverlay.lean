/-!
# Overlaying cells

A list laid over a vector from a start position replaces the cells it covers. Cells that would fall
behind the end of the vector are left out, so the operation is total; callers that must not lose
any check the bound first.
-/

namespace ChipEight

variable {α : Type} {n : Nat}

/-- Replaces the cells from `start` on, one by one, by the members of a list. -/
def overlay (cells : Vector α n) (start : Nat) : List α → Vector α n
  | [] => cells
  | a :: rest => overlay (cells.setIfInBounds start a) (start + 1) rest

@[simp] theorem overlay_nil (cells : Vector α n) (start : Nat) : overlay cells start [] = cells :=
  rfl

theorem getElem_overlay (cells : Vector α n) (start : Nat) (data : List α) {i : Nat} (h : i < n) :
    (overlay cells start data)[i] =
      if start ≤ i then (data[i - start]?).getD cells[i] else cells[i] := by
  induction data generalizing cells start with
  | nil => simp
  | cons a rest ih =>
    rw [overlay, ih, Vector.getElem_setIfInBounds h]
    by_cases hlt : start < i
    · simp [show start + 1 ≤ i by omega, show start ≤ i by omega, show start ≠ i by omega,
        show i - start = (i - (start + 1)) + 1 by omega]
    · by_cases heq : start = i
      · subst heq
        simp [show ¬ start + 1 ≤ start by omega]
      · simp [show ¬ start + 1 ≤ i by omega, show ¬ start ≤ i by omega, heq]

end ChipEight
