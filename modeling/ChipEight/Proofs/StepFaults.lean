import ChipEight.Proofs.HaltedMachines
import ChipEight.Proofs.InstructionEffects
import ChipEight.Proofs.InstructionTable

/-!
# Faults of a step

Every way in which a step fails, said by the word at the program counter: there is no such word, no
instruction has it, the call stack is full or empty, or the instruction reaches behind the end of
memory. A step fails in one of these ways, with the fault that goes with it, and every other step
succeeds. What only a host can do wrong is not among them.
-/

namespace ChipEight

namespace State

/-- The word at the program counter, high byte first. -/
structure NextWord (s : State) (w : Word) : Prop where
  pc_le : s.pc.toNat ≤ 0xFFE
  toNat_eq : w.toNat =
    256 * (s.memory.byteAt s.pc.toNat).toNat + (s.memory.byteAt (s.pc.toNat + 1)).toNat

/-- The ways in which the next step fails, each with its fault. -/
inductive FailsWith (s : State) : Fault → Prop where
  | fetch (outside : 0xFFE < s.pc.toNat) : s.FailsWith (.outOfBounds (max s.pc.toNat 4096))
  /-- No instruction has the word, which is reported with its four digits. -/
  | unknown {a b c d : Fin 16} (next : s.NextWord (.ofDigits a b c d))
      (unassigned : ∀ i : Instruction, i.toWord ≠ .ofDigits a b c d) :
      s.FailsWith (.unimplemented (.ofDigits a b c d)
        (UInt8.ofNat a.val, UInt8.ofNat b.val, UInt8.ofNat c.val, UInt8.ofNat d.val))
  | call {a : Address} (next : s.NextWord (Instruction.call a).toWord)
      (full : s.stack.depth = 16) : s.FailsWith (.stackOverflow (s.pc + 2) 16)
  | ret (next : s.NextWord Instruction.ret.toWord) (unused : s.stack.depth = 0) :
      s.FailsWith (.stackUnderflow (s.pc + 2))
  | draw {x y : Register} {n : Fin 16} (next : s.NextWord (Instruction.draw x y n).toWord)
      (nonempty : 0 < n.val) (outside : 4096 < s.index.toNat + n.val) :
      s.FailsWith (.outOfBounds (max s.index.toNat 4096))
  | storeDigits {x : Register} (next : s.NextWord (Instruction.storeDigits x).toWord)
      (outside : 4096 < s.index.toNat + 3) : s.FailsWith (.outOfBounds (max s.index.toNat 4096))
  | storeThrough {x : Register} (next : s.NextWord (Instruction.storeThrough x).toWord)
      (outside : 4096 < s.index.toNat + x.val + 1) :
      s.FailsWith (.outOfBounds (max s.index.toNat 4096))
  | loadThrough {x : Register} (next : s.NextWord (Instruction.loadThrough x).toWord)
      (outside : 4096 < s.index.toNat + x.val + 1) :
      s.FailsWith (.outOfBounds (max s.index.toNat 4096))

end State

theorem Memory.accessFault?_eq_some_iff {address length : Nat} {fault : Fault} :
    accessFault? address length = some fault ↔
      0 < length ∧ 4096 < address + length ∧ fault = .outOfBounds (max address 4096) := by
  rw [accessFault?]
  by_cases inside : Inside address length
  · rw [if_pos inside]
    rw [Inside, size] at inside
    simp only [reduceCtorEq, false_iff]
    omega
  · rw [if_neg inside, outside, size]
    rw [Inside, size] at inside
    constructor
    · rintro ⟨⟩
      exact ⟨by omega, by omega, rfl⟩
    · rintro ⟨_, _, rfl⟩
      rfl

namespace State

variable {s : State} {w : Word} {i : Instruction} {fault : Fault}

theorem nextWord_iff : s.NextWord w ↔ s.pc.toNat + 2 ≤ 4096 ∧ s.memory.word s.pc.toNat = w := by
  have hword : (s.memory.word s.pc.toNat).toNat =
      256 * (s.memory.byteAt s.pc.toNat).toNat + (s.memory.byteAt (s.pc.toNat + 1)).toNat := by
    have := (s.memory.byteAt s.pc.toNat).toNat_lt
    have := (s.memory.byteAt (s.pc.toNat + 1)).toNat_lt
    rw [Memory.word, Word.ofBytes, Word.toNat_ofNat]
    omega
  constructor
  · rintro ⟨hpc, hw⟩
    exact ⟨by omega, Word.toNat_inj (hword.trans hw.symm)⟩
  · rintro ⟨hpc, rfl⟩
    exact ⟨by omega, hword⟩

theorem instruction?_eq_some_iff : s.instruction? = some i ↔ s.NextWord i.toWord := by
  rw [instruction?_eq, nextWord_iff]
  split
  · next hfits =>
    rw [Instruction.ofWord?_eq_some_iff, eq_comm]
    exact (and_iff_right hfits).symm
  · next hfits => simp [hfits]

theorem FailsWith.fault?_eq (h : s.FailsWith fault) : s.fault? = some fault := by
  have instruction {i : Instruction} (next : s.NextWord i.toWord) :
      s.fault? = i.fault? s.fetched := fault?_of_instruction (instruction?_eq_some_iff.2 next)
  cases h with
  | fetch outside =>
    rw [fault?, if_neg (by omega)]
    rfl
  | unknown next unassigned =>
    obtain ⟨hfits, hword⟩ := nextWord_iff.1 next
    rw [fault?, if_pos hfits, Word.instruction, hword,
      Instruction.ofWord?_eq_none_iff.2 unassigned, Word.digits_ofDigits]
  | call next full =>
    rw [instruction next]
    exact if_pos full
  | ret next unused =>
    rw [instruction next]
    exact if_pos unused
  | draw next nonempty outside =>
    rw [instruction next]
    exact Memory.accessFault?_eq_some_iff.2 ⟨nonempty, outside, rfl⟩
  | storeDigits next outside =>
    rw [instruction next]
    exact Memory.accessFault?_eq_some_iff.2 ⟨by decide, outside, rfl⟩
  | storeThrough next outside =>
    rw [instruction next]
    exact Memory.accessFault?_eq_some_iff.2 ⟨Nat.succ_pos _, outside, rfl⟩
  | loadThrough next outside =>
    rw [instruction next]
    exact Memory.accessFault?_eq_some_iff.2 ⟨Nat.succ_pos _, outside, rfl⟩

theorem failsWith_of_instruction (next : s.NextWord i.toWord)
    (h : i.fault? s.fetched = some fault) : s.FailsWith fault := by
  cases i with
  | call a =>
    obtain ⟨full, ⟨⟩⟩ := Option.ite_none_right_eq_some.1 h
    exact .call next full
  | ret =>
    obtain ⟨unused, ⟨⟩⟩ := Option.ite_none_right_eq_some.1 h
    exact .ret next unused
  | draw x y n =>
    obtain ⟨nonempty, outside, rfl⟩ := Memory.accessFault?_eq_some_iff.1 h
    exact .draw next nonempty outside
  | storeDigits x =>
    obtain ⟨_, outside, rfl⟩ := Memory.accessFault?_eq_some_iff.1 h
    exact .storeDigits next outside
  | storeThrough x =>
    obtain ⟨_, outside, rfl⟩ := Memory.accessFault?_eq_some_iff.1 h
    exact .storeThrough next outside
  | loadThrough x =>
    obtain ⟨_, outside, rfl⟩ := Memory.accessFault?_eq_some_iff.1 h
    exact .loadThrough next outside
  | _ => cases h

theorem fault?_eq_some_iff : s.fault? = some fault ↔ s.FailsWith fault := by
  refine ⟨fun h => ?_, FailsWith.fault?_eq⟩
  by_cases hfits : s.pc.toNat + 2 ≤ 4096
  · cases hi : s.instruction? with
    | some i =>
      rw [fault?_of_instruction hi] at h
      exact failsWith_of_instruction (instruction?_eq_some_iff.1 hi) h
    | none =>
      rw [instruction?_eq, if_pos hfits] at hi
      rw [fault?, if_pos hfits, Word.instruction, hi] at h
      rw [← (s.memory.word s.pc.toNat).ofDigits_fields] at hi h
      cases h
      rw [Word.digits_ofDigits]
      refine .unknown (nextWord_iff.2 ⟨hfits, ?_⟩) (Instruction.ofWord?_eq_none_iff.1 hi)
      exact (Word.ofDigits_fields _).symm
  · rw [fault?, if_neg hfits] at h
    cases h
    exact .fetch (by omega)

end State

/-- A step fails exactly in the ways that are listed, with the fault that is listed there, and it
succeeds in every other case; so it never fails with a fault that concerns a key, the size of a
program or its source. -/
theorem step_fails_as_listed (m : Machine) :
    (∀ fault, m.step = .error fault ↔ m.state.FailsWith fault) ∧
    ((∃ next, m.step = .ok next) ↔ ∀ fault, ¬ m.state.FailsWith fault) ∧
    (∀ key, m.step ≠ .error (.invalidKey key)) ∧
    (∀ size limit, m.step ≠ .error (.romTooLarge size limit)) ∧
    ∀ reason, m.step ≠ .error (.unreadableRom reason) := by
  have fails (fault : Fault) : m.step = .error fault ↔ m.state.FailsWith fault :=
    Machine.step_eq_error_iff.trans State.fault?_eq_some_iff
  have listed {fault : Fault} (h : ¬ m.state.FailsWith fault) : m.step ≠ .error fault :=
    fun hstep => h ((fails fault).1 hstep)
  refine ⟨fails, ?_, fun _ => listed nofun, fun _ _ => listed nofun, fun _ => listed nofun⟩
  cases hstep : m.step with
  | ok next =>
    refine ⟨fun _ fault hfault => ?_, fun _ => ⟨next, rfl⟩⟩
    have hfails := (fails fault).2 hfault
    rw [hstep] at hfails
    cases hfails
  | error fault =>
    refine ⟨fun hok => ?_, fun hnone => absurd ((fails fault).1 hstep) (hnone fault)⟩
    obtain ⟨_, ⟨⟩⟩ := hok

end ChipEight
