import ChipEight.Proofs.StateAccess
import ChipEight.Machine

/-!
# Outcomes of a step

A step fails at one of three places: the fetch, the reading of the word, or the instruction.
`State.fault?` gives the fault of the next step without taking it. It looks at the program counter,
the index register, the call stack and memory only, so nothing else can decide whether a step fails
or how. `Machine.step_eq_ok_iff` takes a successful step apart.
-/

namespace ChipEight

/-- The fault of an access to memory, if it leaves memory. -/
def Memory.accessFault? (address length : Nat) : Option Fault :=
  if Inside address length then none else some (outside address)

namespace Instruction

/-- The fault of an instruction. -/
def fault? (i : Instruction) (s : State) : Option Fault :=
  match i with
  | .ret => if s.stack.depth = 0 then some (.stackUnderflow s.pc) else none
  | .call _ => if s.stack.depth = 16 then some (.stackOverflow s.pc 16) else none
  | .draw _ _ n => Memory.accessFault? s.index.toNat n.val
  | .storeDigits _ => Memory.accessFault? s.index.toNat 3
  | .storeThrough x => Memory.accessFault? s.index.toNat (x.val + 1)
  | .loadThrough x => Memory.accessFault? s.index.toNat (x.val + 1)
  | _ => none

theorem length_registersThrough (s : State) (x : Register) :
    (s.registersThrough x).length = x.val + 1 := by
  rw [State.registersThrough, List.length_take, Vector.length_toList]
  omega

theorem of?_execute (i : Instruction) (keypad : Keypad) (randomByte : UInt8) (s : State) :
    Fault.of? (i.execute keypad randomByte s) = i.fault? s := by
  cases i with
  | ret => rw [execute, Fault.of?_map, State.of?_pop, fault?]
  | call a => rw [execute, Fault.of?_map, State.of?_push, fault?]
  | draw x y n =>
    rw [execute, State.drawSprite_eq, fault?, Memory.accessFault?]
    split <;> rfl
  | storeDigits x =>
    rw [execute, State.store_eq, fault?, Memory.accessFault?, decimalDigits]
    split <;> simp_all
  | storeThrough x =>
    rw [execute, Fault.of?_map, State.store_eq, length_registersThrough, fault?,
      Memory.accessFault?]
    split <;> rfl
  | loadThrough x =>
    rw [execute, Fault.of?_map, State.loadThrough_eq, fault?, Memory.accessFault?]
    split <;> rfl
  | _ => rfl

end Instruction

namespace State

/-- The fault of the next step, if it fails. -/
def fault? (s : State) : Option Fault :=
  if s.pc.toNat + 2 ≤ 4096 then
    match (s.memory.word s.pc.toNat).instruction with
    | .ok i => i.fault? s.fetched
    | .error fault => some fault
  else some (Memory.outside s.pc.toNat)

/-- Registers, timers and the screen have no part in a fault. -/
theorem fault?_congr {s t : State} (hpc : s.pc = t.pc) (hindex : s.index = t.index)
    (hstack : s.stack = t.stack) (hmemory : s.memory = t.memory) : s.fault? = t.fault? := by
  cases s
  cases t
  dsimp only at hpc hindex hstack hmemory
  subst hpc hindex hstack hmemory
  rfl

end State

namespace Machine

variable {m n : Machine}

theorem step_eq (m : Machine) :
    m.step =
      if m.state.pc.toNat + 2 ≤ 4096 then
        match (m.state.memory.word m.state.pc.toNat).instruction with
        | .error fault => .error fault
        | .ok i => (i.execute m.keypad m.random.nextByte m.state.fetched).map fun state =>
            { m with state, random := m.random.skip i.randomWords }
      else .error (Memory.outside m.state.pc.toNat) := by
  have hfetch := m.state.fetch_eq
  by_cases hfits : m.state.pc.toNat + 2 ≤ 4096
  · rw [if_pos hfits] at hfetch
    cases hword : (m.state.memory.word m.state.pc.toNat).instruction with
    | error fault => simp only [step, hfetch, hword, if_pos hfits]
    | ok i => simp only [step, hfetch, hword, if_pos hfits]
  · rw [if_neg hfits] at hfetch
    simp only [step, hfetch, if_neg hfits]

theorem step_eq_ok_iff :
    m.step = .ok n ↔
      m.state.pc.toNat + 2 ≤ 4096 ∧ ∃ i next,
        (m.state.memory.word m.state.pc.toNat).instruction = .ok i ∧
        i.execute m.keypad m.random.nextByte m.state.fetched = .ok next ∧
        n = { m with state := next, random := m.random.skip i.randomWords } := by
  rw [step_eq]
  split
  · next hfits =>
    cases hword : (m.state.memory.word m.state.pc.toNat).instruction with
    | error fault => simp
    | ok i => simp [hfits, Fault.map_eq_ok_iff, @eq_comm _ _ n]
  · next hfits => simp [hfits]

theorem keypad_of_step (h : m.step = .ok n) : n.keypad = m.keypad := by
  obtain ⟨_, _, _, _, _, rfl⟩ := step_eq_ok_iff.1 h
  rfl

theorem of?_step (m : Machine) : Fault.of? m.step = m.state.fault? := by
  rw [step_eq, State.fault?]
  split
  · cases (m.state.memory.word m.state.pc.toNat).instruction with
    | error fault => rfl
    | ok i => simp only [Fault.of?_map, Instruction.of?_execute]
  · rfl

end Machine
end ChipEight
