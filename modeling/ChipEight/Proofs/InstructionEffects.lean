import ChipEight.Proofs.StepOutcomes

/-!
# Effects of instructions

What an instruction makes of a state when it does not fail, as a function that always gives a
state. Together with `Instruction.fault?` it decides an execution, so facts about the parts that an
instruction touches or looks at are facts about `Instruction.effect`, one constructor at a time.
-/

namespace ChipEight

namespace State

/-- The state behind a return, and the same state where there is nowhere to return to. -/
def returned (s : State) : State :=
  match s.stack.pop? with
  | some (a, stack) => { s with stack, pc := a }
  | none => s

/-- The state behind a call, which finds the slots as they are where none is free. -/
def called (s : State) (a : Address) : State :=
  { s with stack := (s.stack.push? s.pc).getD s.stack, pc := UInt16.ofNat a.val }

/-- The state behind drawing, with the bytes behind the end of memory taken as zero. -/
def drawn (s : State) (x y : Register) (n : Nat) : State :=
  let drawing := s.screen.draw (s.register x).toNat (s.register y).toNat
    (s.memory.window s.index.toNat n)
  { s with screen := drawing.1 }.setFlag drawing.2

/-- The state behind storing those bytes that memory has room for. -/
def stored (s : State) (data : List UInt8) : State :=
  { s with memory := ⟨overlay s.memory.bytes s.index.toNat data⟩ }

def loaded (s : State) (x : Register) : State :=
  { s with registers := overlay s.registers 0 (s.memory.window s.index.toNat (x.val + 1)) }

@[simp] theorem register_setRegister_self (s : State) (x : Register) (b : UInt8) :
    (s.setRegister x b).register x = b :=
  Vector.getElem_set_self x.isLt

theorem register_setRegister_of_ne {s : State} {x r : Register} (h : r ≠ x) (b : UInt8) :
    (s.setRegister x b).register r = s.register r :=
  Vector.getElem_set_ne x.isLt r.isLt fun hval => h (Fin.ext hval.symm)

theorem toNat_register_setFlag (s : State) (flag : Bool) :
    ((s.setFlag flag).register flagRegister).toNat = flag.toNat := by
  rw [setFlag, register_setRegister_self]
  cases flag <;> rfl

theorem register_setFlag_of_ne {s : State} {r : Register} (h : r ≠ flagRegister) (flag : Bool) :
    (s.setFlag flag).register r = s.register r :=
  register_setRegister_of_ne h _

end State

namespace Instruction

/-- The state behind an instruction that does not fail. -/
def effect (i : Instruction) (keypad : Keypad) (randomByte : UInt8) (s : State) : State :=
  match i with
  | .ret => s.returned
  | .call a => s.called a
  | .draw x y n => s.drawn x y n.val
  | .storeDigits x => s.stored (decimalDigits (s.register x))
  | .storeThrough x => (s.stored (s.registersThrough x)).advanceIndexBy (x.val + 1)
  | .loadThrough x => (s.loaded x).advanceIndexBy (x.val + 1)
  | i =>
    match i.execute keypad randomByte s with
    | .ok next => next
    | .error _ => s

/-- An instruction either fails as foretold or has its effect. -/
theorem execute_eq (i : Instruction) (keypad : Keypad) (randomByte : UInt8) (s : State) :
    i.execute keypad randomByte s =
      match i.fault? s with
      | some fault => .error fault
      | none => .ok (i.effect keypad randomByte s) := by
  cases i with
  | ret =>
    rw [execute, State.pop, fault?, effect, State.returned]
    cases hpop : s.stack.pop? with
    | none => rw [if_pos (CallStack.pop?_eq_none_iff.1 hpop)]; rfl
    | some popped =>
      have := (CallStack.slots_pop? hpop).1
      rw [if_neg (by omega)]
      rfl
  | call a =>
    rw [execute, State.push, fault?, effect, State.called]
    cases hpush : s.stack.push? s.pc with
    | none =>
      have full := CallStack.push?_eq_none_iff.1 hpush
      rw [if_pos full, full]
      rfl
    | some pushed =>
      have := (CallStack.slots_push? hpush).1
      rw [if_neg (by omega)]
      rfl
  | draw x y n =>
    rw [execute, State.drawSprite_eq, fault?, Memory.accessFault?, effect, State.drawn]
    split <;> rfl
  | storeDigits x =>
    have hlength : (decimalDigits (s.register x)).length = 3 := rfl
    rw [execute, State.store_eq, hlength, fault?, Memory.accessFault?, effect, State.stored]
    split <;> rfl
  | storeThrough x =>
    rw [execute, State.store_eq, length_registersThrough, fault?, Memory.accessFault?, effect,
      State.stored]
    split <;> rfl
  | loadThrough x =>
    rw [execute, State.loadThrough_eq, fault?, Memory.accessFault?, effect, State.loaded]
    split <;> rfl
  | _ => rfl

theorem execute_eq_ok_iff {i : Instruction} {keypad : Keypad} {randomByte : UInt8} {s t : State} :
    i.execute keypad randomByte s = .ok t ↔
      i.fault? s = none ∧ t = i.effect keypad randomByte s := by
  rw [execute_eq]
  cases i.fault? s with
  | none => simp [eq_comm]
  | some fault => simp

section Effects

variable (keypad : Keypad) (randomByte : UInt8) (s : State)

theorem effect_ret :
    Instruction.ret.effect keypad randomByte s =
      { s with stack := s.returned.stack, pc := s.returned.pc } := by
  rw [effect, State.returned]
  split <;> rfl

theorem effect_skip (c : Condition) :
    (Instruction.skip c).effect keypad randomByte s =
      { s with pc := if c.holds keypad s then s.pc + 2 else s.pc } := by
  simp only [effect, execute]
  split <;> rfl

theorem effect_awaitKey (x : Register) :
    (Instruction.awaitKey x).effect keypad randomByte s =
      { s with
        registers := (s.awaitKey keypad x).registers
        pc := (s.awaitKey keypad x).pc } := by
  simp only [effect, execute, State.awaitKey]
  split <;> rfl

theorem effect_arithmetic (op : Arithmetic) (x y : Register) :
    (Instruction.arithmetic op x y).effect keypad randomByte s =
      { s with registers := (s.combine op x y).registers } := by
  cases op <;> rfl

end Effects

theorem exists_pop?_of_fault? {s : State} (h : ret.fault? s = none) :
    ∃ a stack, s.stack.pop? = some (a, stack) := by
  cases hpop : s.stack.pop? with
  | none => simp [fault?, CallStack.pop?_eq_none_iff.1 hpop] at h
  | some popped => exact ⟨_, _, rfl⟩

theorem exists_push?_of_fault? {s : State} {a : Address} (h : (call a).fault? s = none) :
    ∃ stack, s.stack.push? s.pc = some stack := by
  cases hpush : s.stack.push? s.pc with
  | none => simp [fault?, CallStack.push?_eq_none_iff.1 hpush] at h
  | some stack => exact ⟨_, rfl⟩

def stackBehind (i : Instruction) (s : State) : CallStack :=
  match i with
  | .ret => s.returned.stack
  | .call a => (s.called a).stack
  | _ => s.stack

def timersBehind (i : Instruction) (s : State) : Timers :=
  match i with
  | .setDelay x => { s.timers with delay := s.register x }
  | .setSound x => { s.timers with sound := s.register x }
  | _ => s.timers

def usesTimers : Instruction → Bool
  | .readDelay _ | .setDelay _ | .setSound _ => true
  | _ => false

def readsKeypad : Instruction → Bool
  | .skip (.pressed _) | .skip (.released _) | .awaitKey _ => true
  | _ => false

section Parts

variable (i : Instruction) (keypad : Keypad) (randomByte : UInt8) (s : State)

theorem effect_stack : (i.effect keypad randomByte s).stack = i.stackBehind s := by
  cases i with
  | skip c =>
    rw [effect_skip]
    rfl
  | awaitKey x =>
    rw [effect_awaitKey]
    rfl
  | arithmetic op x y =>
    rw [effect_arithmetic]
    rfl
  | _ => rfl

theorem effect_timers : (i.effect keypad randomByte s).timers = i.timersBehind s := by
  cases i with
  | ret =>
    rw [effect_ret]
    rfl
  | skip c =>
    rw [effect_skip]
    rfl
  | awaitKey x =>
    rw [effect_awaitKey]
    rfl
  | arithmetic op x y =>
    rw [effect_arithmetic]
    rfl
  | _ => rfl

theorem effect_with_timers (h : i.usesTimers = false) (timers : Timers) :
    i.effect keypad randomByte { s with timers } =
      { i.effect keypad randomByte s with timers } := by
  cases i with
  | readDelay x => cases h
  | setDelay x => cases h
  | setSound x => cases h
  | ret =>
    simp only [effect, State.returned]
    split <;> rfl
  | skip c =>
    have hholds : c.holds keypad { s with timers } = c.holds keypad s := by cases c <;> rfl
    simp only [effect, execute, hholds]
    split <;> rfl
  | awaitKey x =>
    simp only [effect, execute, State.awaitKey]
    split <;> rfl
  | arithmetic op x y => cases op <;> rfl
  | _ => rfl

theorem effect_keypad_congr (h : i.readsKeypad = false) (other : Keypad) :
    i.effect other randomByte s = i.effect keypad randomByte s := by
  cases i with
  | awaitKey x => cases h
  | skip c =>
    cases c with
    | pressed x => cases h
    | released x => cases h
    | _ => rfl
  | _ => rfl

theorem effect_random_congr (h : ∀ x k, i = .random x k → k = 0) (other : UInt8) :
    i.effect keypad other s = i.effect keypad randomByte s := by
  cases i with
  | random x k =>
    cases h x k rfl
    simp only [effect, execute, UInt8.and_zero]
  | _ => rfl

end Parts

end Instruction

namespace State

/-- The instruction at the program counter, which the next step carries out unless it fails. -/
def instruction? (s : State) : Option Instruction :=
  match s.fetch with
  | .ok (word, _) => Instruction.ofWord? word
  | .error _ => none

theorem instruction?_eq (s : State) :
    s.instruction? =
      if s.pc.toNat + 2 ≤ 4096 then Instruction.ofWord? (s.memory.word s.pc.toNat) else none := by
  rw [instruction?, fetch_eq]
  by_cases hfits : s.pc.toNat + 2 ≤ 4096
  · simp only [if_pos hfits]
  · simp only [if_neg hfits]

theorem fault?_of_instruction {s : State} {i : Instruction} (h : s.instruction? = some i) :
    s.fault? = i.fault? s.fetched := by
  rw [instruction?_eq] at h
  split at h
  · next hfits => simp only [fault?, if_pos hfits, Word.instruction, h]
  · cases h

theorem instruction?_congr {s t : State} (hpc : s.pc = t.pc) (hmemory : s.memory = t.memory) :
    s.instruction? = t.instruction? := by
  rw [instruction?_eq, instruction?_eq, hpc, hmemory]

end State

namespace Machine

variable {m n : Machine} {i : Instruction}

/-- The machine behind an instruction that does not fail. -/
def carryOut (m : Machine) (i : Instruction) : Machine :=
  { m with
    state := i.effect m.keypad m.random.nextByte m.state.fetched
    random := m.random.skip i.randomWords }

/-- A step succeeds when no fault is foretold, and it then carries out the instruction at the
program counter. -/
theorem step_eq_ok_iff_carryOut :
    m.step = .ok n ↔
      m.state.fault? = none ∧ ∃ i, m.state.instruction? = some i ∧ n = m.carryOut i := by
  rw [step_eq_ok_iff, State.fault?, State.instruction?_eq]
  by_cases hfits : m.state.pc.toNat + 2 ≤ 4096
  · simp only [if_pos hfits, Word.instruction]
    cases Instruction.ofWord? (m.state.memory.word m.state.pc.toNat) with
    | none => simp
    | some i =>
      constructor
      · rintro ⟨_, _, next, ⟨rfl⟩, hnext, rfl⟩
        obtain ⟨hfault, rfl⟩ := Instruction.execute_eq_ok_iff.1 hnext
        exact ⟨hfault, i, rfl, rfl⟩
      · rintro ⟨hfault, _, ⟨rfl⟩, rfl⟩
        exact ⟨hfits, i, _, rfl, Instruction.execute_eq_ok_iff.2 ⟨hfault, rfl⟩, rfl⟩
  · simp [hfits]

theorem eq_carryOut (h : m.step = .ok n) (hi : m.state.instruction? = some i) :
    n = m.carryOut i := by
  obtain ⟨_, j, hj, hn⟩ := step_eq_ok_iff_carryOut.1 h
  rw [hi] at hj
  cases hj
  exact hn

theorem toNat_pc_fetched (h : m.state.instruction? = some i) :
    m.state.fetched.pc.toNat = m.state.pc.toNat + 2 := by
  rw [State.instruction?_eq] at h
  split at h
  · next hfits => exact State.toNat_pc_fetched hfits
  · cases h

end Machine
end ChipEight
