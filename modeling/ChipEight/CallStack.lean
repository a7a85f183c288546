/-!
# The call stack

Sixteen slots for return addresses, of which the first `depth` are in use. A return leaves its
address in the slot, where the next call overwrites it; only the slots in use, `toList`, decide
what later calls and returns do.
-/

namespace ChipEight

/-- Return addresses, the most recent one last. -/
structure CallStack where
  slots : Vector UInt16 16
  depth : Nat
  depth_le : depth ≤ 16

namespace CallStack

def capacity : Nat := 16

def empty : CallStack := ⟨Vector.replicate 16 0, 0, by omega⟩

def toList (s : CallStack) : List UInt16 := s.slots.toList.take s.depth

@[simp] theorem length_toList (s : CallStack) : s.toList.length = s.depth := by
  simp [toList, Nat.min_eq_left s.depth_le]

/-- Adds an address, unless every slot is in use. -/
def push? (s : CallStack) (address : UInt16) : Option CallStack :=
  if h : s.depth < 16 then some ⟨s.slots.set s.depth address h, s.depth + 1, h⟩ else none

/-- Takes the most recent address off, unless no slot is in use. -/
def pop? (s : CallStack) : Option (UInt16 × CallStack) :=
  if h : 0 < s.depth then
    have := s.depth_le
    some (s.slots[s.depth - 1], ⟨s.slots, s.depth - 1, by omega⟩)
  else none

theorem toList_push? {s t : CallStack} {a : UInt16} (h : s.push? a = some t) :
    t.toList = s.toList ++ [a] := by
  rw [push?] at h
  split at h
  · next free =>
    cases h
    have hlength : s.depth < s.slots.toList.length := by
      rw [Vector.length_toList]
      exact free
    simp only [toList, Vector.toList_set]
    rw [List.take_add_one, List.take_set_of_le (Nat.le_refl s.depth),
      List.getElem?_set_self hlength, Option.toList_some]
  · simp at h

theorem toList_pop? {s t : CallStack} {a : UInt16} (h : s.pop? = some (a, t)) :
    s.toList = t.toList ++ [a] := by
  rw [pop?] at h
  split at h
  · next used =>
    cases h
    have hlt : s.depth - 1 < 16 := Nat.lt_of_lt_of_le (Nat.sub_one_lt_of_lt used) s.depth_le
    have htop : s.slots.toList[s.depth - 1]? = some s.slots[s.depth - 1] := by
      rw [Vector.getElem?_toList, Vector.getElem?_eq_getElem hlt]
    have hsplit := List.take_add_one (l := s.slots.toList) (i := s.depth - 1)
    rw [Nat.sub_add_cancel used, htop] at hsplit
    exact hsplit
  · simp at h

end CallStack
end ChipEight
