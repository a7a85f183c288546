import ChipEight.Execution

/-!
# Access to the parts of a state

What memory, the call stack and the registers answer, in a form that the later modules use in
place of the definitions. An access to memory succeeds exactly when it is `Memory.Inside`, and it
then gives a `Memory.window`. An operation on one part of a state leaves the others alone.
-/

namespace ChipEight

/-- The fault of an outcome, if it is one. -/
def Fault.of? {α : Type} : Except Fault α → Option Fault
  | .ok _ => none
  | .error fault => some fault

namespace Fault

variable {α β : Type}

@[simp] theorem of?_ok (a : α) : of? (.ok a) = none := rfl

@[simp] theorem of?_error (fault : Fault) : of? (.error fault : Except Fault α) = some fault := rfl

@[simp] theorem of?_map (f : α → β) (outcome : Except Fault α) :
    of? (outcome.map f) = of? outcome := by
  cases outcome <;> rfl

theorem of?_eq_some_iff {outcome : Except Fault α} {fault : Fault} :
    of? outcome = some fault ↔ outcome = .error fault := by
  cases outcome <;> simp

theorem map_eq_ok_iff {f : α → β} {outcome : Except Fault α} {b : β} :
    outcome.map f = .ok b ↔ ∃ a, outcome = .ok a ∧ f a = b := by
  cases outcome <;> simp [Except.map]

end Fault

namespace Memory

variable {m : Memory} {address length : Nat}

def Inside (address length : Nat) : Prop := length = 0 ∨ address + length ≤ size

instance (address length : Nat) : Decidable (Inside address length) :=
  inferInstanceAs (Decidable (_ ∨ _))

/-- The byte at an address, and zero behind the end of memory. -/
def byteAt (m : Memory) (address : Nat) : UInt8 := m.bytes[address]?.getD 0

theorem byteAt_of_lt (h : address < 4096) : m.byteAt address = m.bytes[address] := by
  simp [byteAt, h]

def window (m : Memory) (address length : Nat) : List UInt8 :=
  (List.range length).map fun k => m.byteAt (address + k)

@[simp] theorem length_window : (m.window address length).length = length := by
  simp [window]

theorem getElem?_window {k : Nat} (hk : k < length) (h : Inside address length) :
    (m.window address length)[k]? = m.bytes[address + k]? := by
  have hlt : address + k < 4096 := by
    rcases h with h | h
    · omega
    · exact Nat.lt_of_lt_of_le (Nat.add_lt_add_left hk address) h
  simp [window, hk, byteAt, hlt]

theorem read_eq (m : Memory) (address length : Nat) :
    m.read address length =
      if Inside address length then .ok (m.window address length)
      else .error (outside address) := by
  rw [read]
  by_cases hzero : length = 0
  · subst hzero
    simp [Inside, window]
  by_cases hfits : address + length ≤ 4096
  · have inside : Inside address length := Or.inr hfits
    rw [if_neg hzero, dif_pos hfits, if_pos inside]
    congr 1
    apply List.ext_getElem
    · simp
    · intro k hk _
      rw [List.length_ofFn] at hk
      simp only [List.getElem_ofFn, window, List.getElem_map, List.getElem_range]
      exact (byteAt_of_lt (by omega)).symm
  · have notInside : ¬ Inside address length := by
      rintro (h | h)
      · exact hzero h
      · exact hfits h
    rw [if_neg hzero, dif_neg hfits, if_neg notInside]

theorem write_eq (m : Memory) (address : Nat) (data : List UInt8) :
    m.write address data =
      if Inside address data.length then .ok ⟨overlay m.bytes address data⟩
      else .error (outside address) := by
  simp [write, Inside, size]

def word (m : Memory) (address : Nat) : Word :=
  Word.ofBytes (m.byteAt address) (m.byteAt (address + 1))

theorem wordAt_eq (m : Memory) (address : Nat) :
    m.wordAt address =
      if address + 2 ≤ 4096 then .ok (m.word address) else .error (outside address) := by
  rw [wordAt, word]
  split
  · rw [byteAt_of_lt (by omega), byteAt_of_lt (by omega)]
  · rfl

end Memory

namespace CallStack

variable {s t : CallStack} {a : UInt16}

theorem push?_eq_none_iff : s.push? a = none ↔ s.depth = 16 := by
  have := s.depth_le
  rw [push?]
  split <;> simp <;> omega

theorem pop?_eq_none_iff : s.pop? = none ↔ s.depth = 0 := by
  rw [pop?]
  split <;> simp <;> omega

theorem slots_push? (h : s.push? a = some t) :
    s.depth < 16 ∧ t.depth = s.depth + 1 ∧
      ∀ k (hk : k < 16), t.slots[k] = if k = s.depth then a else s.slots[k] := by
  rw [push?] at h
  split at h
  · next free =>
    cases h
    refine ⟨free, rfl, fun k hk => ?_⟩
    rw [Vector.getElem_set]
    simp only [eq_comm]
  · simp at h

theorem slots_pop? (h : s.pop? = some (a, t)) :
    t.depth + 1 = s.depth ∧ t.slots = s.slots ∧ s.slots[t.depth]? = some a := by
  have := s.depth_le
  rw [pop?] at h
  split at h
  · next used =>
    simp only [Option.some.injEq, Prod.mk.injEq] at h
    obtain ⟨rfl, rfl⟩ := h
    refine ⟨?_, rfl, ?_⟩
    · dsimp only
      omega
    · exact Vector.getElem?_eq_getElem _
  · simp at h

end CallStack

namespace State

variable (s : State)

/-- The state whose program counter has moved behind the word at it. -/
def fetched : State := { s with pc := s.pc + 2 }

theorem fetch_eq :
    s.fetch =
      if s.pc.toNat + 2 ≤ 4096 then .ok (s.memory.word s.pc.toNat, s.fetched)
      else .error (Memory.outside s.pc.toNat) := by
  rw [fetch, fetched, Memory.wordAt_eq]
  split
  · next h => split at h <;> simp_all
  · next h => split at h <;> simp_all

theorem toNat_pc_fetched {s : State} (h : s.pc.toNat + 2 ≤ 4096) :
    s.fetched.pc.toNat = s.pc.toNat + 2 := by
  simp only [fetched, UInt16.toNat_add, UInt16.reduceToNat]
  omega

theorem of?_push (a : UInt16) :
    Fault.of? (s.push a) = if s.stack.depth = 16 then some (.stackOverflow s.pc 16) else none := by
  rw [push]
  split
  · next h =>
    have := (CallStack.slots_push? h).1
    rw [Fault.of?_ok, if_neg (by omega)]
  · next h =>
    have full := CallStack.push?_eq_none_iff.1 h
    rw [Fault.of?_error, if_pos full, full]

theorem of?_pop :
    Fault.of? s.pop = if s.stack.depth = 0 then some (.stackUnderflow s.pc) else none := by
  rw [pop]
  split
  · next h =>
    have := (CallStack.slots_pop? h).1
    rw [Fault.of?_ok, if_neg (by omega)]
  · next h => rw [Fault.of?_error, if_pos (CallStack.pop?_eq_none_iff.1 h)]

theorem push_eq_ok_iff {s t : State} {a : UInt16} :
    s.push a = .ok t ↔ ∃ stack, s.stack.push? a = some stack ∧ t = { s with stack } := by
  rw [push]
  split
  · next h => simp [h, eq_comm]
  · next h => simp [h]

theorem pop_eq_ok_iff {s t : State} {a : UInt16} :
    s.pop = .ok (a, t) ↔ ∃ stack, s.stack.pop? = some (a, stack) ∧ t = { s with stack } := by
  rw [pop]
  split
  · next h =>
    simp only [h, Except.ok.injEq, Option.some.injEq, Prod.mk.injEq]
    constructor
    · rintro ⟨rfl, rfl⟩
      exact ⟨_, ⟨rfl, rfl⟩, rfl⟩
    · rintro ⟨_, ⟨rfl, rfl⟩, rfl⟩
      exact ⟨rfl, rfl⟩
  · next h => simp [h]

theorem store_eq (data : List UInt8) :
    s.store data =
      if Memory.Inside s.index.toNat data.length then
        .ok { s with memory := ⟨overlay s.memory.bytes s.index.toNat data⟩ }
      else .error (Memory.outside s.index.toNat) := by
  rw [store, Memory.write_eq]
  split
  · next h => split at h <;> simp_all
  · next h => split at h <;> simp_all

theorem loadThrough_eq (x : Register) :
    s.loadThrough x =
      if Memory.Inside s.index.toNat (x.val + 1) then
        .ok { s with
          registers := overlay s.registers 0 (s.memory.window s.index.toNat (x.val + 1)) }
      else .error (Memory.outside s.index.toNat) := by
  rw [loadThrough, Memory.read_eq]
  split
  · next h => split at h <;> simp_all
  · next h => split at h <;> simp_all

theorem drawSprite_eq (x y : Register) (n : Nat) :
    s.drawSprite x y n =
      if Memory.Inside s.index.toNat n then
        let drawn := s.screen.draw (s.register x).toNat (s.register y).toNat
          (s.memory.window s.index.toNat n)
        .ok ({ s with screen := drawn.1 }.setFlag drawn.2)
      else .error (Memory.outside s.index.toNat) := by
  rw [drawSprite, Memory.read_eq]
  split
  · next h => split at h <;> simp_all
  · next h => split at h <;> simp_all

section Combinations

variable (op : Arithmetic) (x y : Register)

@[simp] theorem combine_index : (s.combine op x y).index = s.index := by
  cases op <;> rfl

@[simp] theorem combine_pc : (s.combine op x y).pc = s.pc := by
  cases op <;> rfl

@[simp] theorem combine_stack : (s.combine op x y).stack = s.stack := by
  cases op <;> rfl

end Combinations

end State
end ChipEight
