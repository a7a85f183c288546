import ChipEight.Proofs.HistoryMoments

/-!
# Matched returns

A return goes back to the call that it belongs to. A call leaves its return address in the slot at
the depth it was made at. While the call stack stays deeper than that, no request but a reset
touches this slot or one below it, whatever programs write to memory, call and return from; so the
return that takes the stack back to that depth finds the address of its own call.
-/

namespace ChipEight

/-- Two call stacks have the same return addresses in the slots up to and including `d`. -/
def CallStack.AgreeThrough (d : Nat) (s t : CallStack) : Prop :=
  ∀ k (hk : k < 16), k ≤ d → s.slots[k] = t.slots[k]

namespace CallStack.AgreeThrough

variable {d : Nat} {s t u : CallStack}

theorem refl (d : Nat) (s : CallStack) : AgreeThrough d s s := fun _ _ _ => rfl

theorem trans (h : AgreeThrough d s t) (h' : AgreeThrough d t u) : AgreeThrough d s u :=
  fun k hk hle => (h k hk hle).trans (h' k hk hle)

end CallStack.AgreeThrough

namespace Instruction

variable {d : Nat} (i : Instruction) (s : State)

theorem stackBehind_agree (hd : d < s.stack.depth) :
    CallStack.AgreeThrough d (i.stackBehind s) s.stack := by
  cases i with
  | ret =>
    rw [stackBehind, State.returned]
    split
    · next hpop =>
      intro k hk _
      rw [(CallStack.slots_pop? hpop).2.1]
    · exact .refl d s.stack
  | call a =>
    rw [stackBehind, State.called]
    cases hpush : s.stack.push? s.pc with
    | none => exact .refl d s.stack
    | some pushed =>
      intro k hk hle
      have hslot := (CallStack.slots_push? hpush).2.2 k hk
      rwa [if_neg (by omega)] at hslot
  | _ => exact .refl d s.stack

theorem depth_le_stackBehind (h : i ≠ .ret) : s.stack.depth ≤ (i.stackBehind s).depth := by
  cases i with
  | ret => exact absurd rfl h
  | call a =>
    rw [stackBehind, State.called]
    cases hpush : s.stack.push? s.pc with
    | none => exact Nat.le_refl _
    | some pushed =>
      have hdepth := (CallStack.slots_push? hpush).2.1
      simp only [Option.getD_some]
      omega
  | _ => exact Nat.le_refl _

end Instruction

namespace Machine

variable {d : Nat} {m : Machine}

theorem perform_agree {r : HostRequest} (hreset : r ≠ .reset) (hd : d < m.state.stack.depth) :
    CallStack.AgreeThrough d (m.perform r).1.state.stack m.state.stack := by
  cases hexecuted : (Moment.mk m r).executed? with
  | some i =>
    rw [perform_of_executed hexecuted, carryOut, Instruction.effect_stack]
    exact i.stackBehind_agree m.state.fetched hd
  | none =>
    obtain ⟨memory, keypad, hnext⟩ := perform_of_not_executed hreset hexecuted
    rw [hnext]
    exact .refl d m.state.stack

/-- While the call stack stays deeper than `d`, the slots up to `d` stay as they are. -/
theorem performAll_agree {requests : List HostRequest} (hreset : .reset ∉ requests)
    (hdeep : ∀ k ≤ requests.length, d < (m.performAll (requests.take k)).1.state.stack.depth) :
    CallStack.AgreeThrough d (m.performAll requests).1.state.stack m.state.stack := by
  induction requests generalizing m with
  | nil => exact .refl d m.state.stack
  | cons r rest ih =>
    rw [List.mem_cons, not_or] at hreset
    have first := perform_agree (Ne.symm hreset.1) (hdeep 0 (Nat.zero_le _))
    have others := ih (m := (m.perform r).1) hreset.2 fun k hk =>
      hdeep (k + 1) (Nat.succ_le_succ hk)
    exact others.trans first

theorem call_eq_ok {called : Machine} {a : Address}
    (hcall : m.state.instruction? = some (.call a)) (hstep : m.step = .ok called) :
    m.state.stack.depth < 16 ∧ called.state.stack.depth = m.state.stack.depth + 1 ∧
      ∀ hd : m.state.stack.depth < 16,
        called.state.stack.slots[m.state.stack.depth] = m.state.fetched.pc := by
  have hnone := (step_eq_ok_iff_carryOut.1 hstep).1
  rw [State.fault?_of_instruction hcall] at hnone
  obtain ⟨pushed, hpush⟩ := Instruction.exists_push?_of_fault? hnone
  obtain ⟨hlt, hdepth, hslots⟩ := CallStack.slots_push? hpush
  have hcalled : called.state.stack = pushed := by
    rw [eq_carryOut hstep hcall, carryOut, Instruction.effect_stack, Instruction.stackBehind,
      State.called, hpush, Option.getD_some]
  rw [hcalled]
  exact ⟨hlt, hdepth, fun hd => (hslots _ hd).trans (if_pos rfl)⟩

theorem ret_eq_ok {back : Machine} (hret : m.state.instruction? = some .ret)
    (hstep : m.step = .ok back) :
    back.state.stack.depth + 1 = m.state.stack.depth ∧
      m.state.stack.slots[back.state.stack.depth]? = some back.state.pc := by
  have hnone := (step_eq_ok_iff_carryOut.1 hstep).1
  rw [State.fault?_of_instruction hret] at hnone
  obtain ⟨a, stack, hpop⟩ := Instruction.exists_pop?_of_fault? hnone
  obtain ⟨hdepth, _, htop⟩ := CallStack.slots_pop? hpop
  have hback : back.state = { m.state.fetched with stack, pc := a } := by
    rw [eq_carryOut hstep hret, carryOut, Instruction.effect, State.returned, hpop]
  rw [hback]
  exact ⟨hdepth, htop⟩

theorem instruction?_of_depth_lt {back : Machine} (hstep : m.step = .ok back)
    (hdepth : back.state.stack.depth < m.state.stack.depth) :
    m.state.instruction? = some .ret := by
  obtain ⟨_, i, hi, rfl⟩ := step_eq_ok_iff_carryOut.1 hstep
  by_cases hret : i = .ret
  · rw [hi, hret]
  · have hle : m.state.stack.depth ≤ _ := i.depth_le_stackBehind m.state.fetched hret
    rw [carryOut, Instruction.effect_stack] at hdepth
    omega

end Machine

/-- A call at depth `d` is answered by its own return. In a history without a reset in which the
call stack stays deeper than `d`, every slot up to `d` keeps the address that it held right behind
the call; and a step that then succeeds leaves the stack no deeper than `d` exactly when it is a
return from depth `d + 1`, and it goes on behind the call. -/
theorem return_to_own_call {m called : Machine} {a : Address}
    (hcall : m.state.instruction? = some (.call a)) (hstep : m.step = .ok called) :
    let d := m.state.stack.depth
    d < 16 ∧ called.state.stack.depth = d + 1 ∧
    ∀ requests : List HostRequest, .reset ∉ requests →
      (∀ k ≤ requests.length,
        d < (called.performAll (requests.take k)).1.state.stack.depth) →
      let last := (called.performAll requests).1
      CallStack.AgreeThrough d last.state.stack called.state.stack ∧
      ∀ back, last.step = .ok back →
        (back.state.stack.depth ≤ d ↔
          last.state.instruction? = some .ret ∧ last.state.stack.depth = d + 1) ∧
        (back.state.stack.depth ≤ d →
          back.state.stack.depth = d ∧ back.state.pc.toNat = m.state.pc.toNat + 2) := by
  intro d
  obtain ⟨hd, hdepth, hslot⟩ := Machine.call_eq_ok hcall hstep
  refine ⟨hd, hdepth, ?_⟩
  intro requests hreset hdeep last
  have agree : CallStack.AgreeThrough d last.state.stack called.state.stack :=
    Machine.performAll_agree hreset hdeep
  have deep : d < last.state.stack.depth := by
    have := hdeep requests.length (Nat.le_refl _)
    rwa [List.take_length] at this
  refine ⟨agree, fun back hback => ⟨⟨fun hle => ?_, ?_⟩, fun hle => ?_⟩⟩
  · have hret := Machine.instruction?_of_depth_lt hback (by omega)
    have := (Machine.ret_eq_ok hret hback).1
    exact ⟨hret, by omega⟩
  · rintro ⟨hret, hlast⟩
    have := (Machine.ret_eq_ok hret hback).1
    omega
  · have hret := Machine.instruction?_of_depth_lt hback (by omega)
    obtain ⟨hpopped, htop⟩ := Machine.ret_eq_ok hret hback
    have hsame : back.state.stack.depth = d := by omega
    have hown : last.state.stack.slots[d]? = some m.state.fetched.pc := by
      rw [Vector.getElem?_eq_getElem hd, agree d hd (Nat.le_refl d), hslot hd]
    rw [hsame, hown, Option.some.injEq] at htop
    exact ⟨hsame, htop ▸ Machine.toNat_pc_fetched hcall⟩

/-- A subroutine that calls another one, erases the word of the call it was made by and is left with
a new program in its place still returns behind that call. -/
theorem return_to_own_call_erased :
    let m := ((Machine.initial (.ofList [])).performAll [.load
      [0x22, 0x04, 0x12, 0x02, 0x22, 0x08, 0x00, 0xEE, 0xA2, 0x00, 0xF1, 0x55, 0x00, 0xEE]]).1
    let called := (m.perform .step).1
    let requests : List HostRequest :=
      [.step, .tick, .step, .press 3 true, .step, .press 16 true, .load [0xAA], .step]
    m.state.instruction? = some (.call 0x204) ∧ m.step = .ok called ∧ .reset ∉ requests ∧
    (∀ k ≤ requests.length,
      m.state.stack.depth < (called.performAll (requests.take k)).1.state.stack.depth) ∧
    ∃ back, (called.performAll requests).1.step = .ok back ∧
      back.state.stack.depth = 0 ∧ back.state.pc.toNat = 0x202 := by
  intro m called requests
  obtain ⟨hcall, hreply, hdeep, hlast, hshallow, hdepth, hpc⟩ :
      m.state.instruction? = some (.call 0x204) ∧ (m.perform .step).2.fault = none ∧
      (∀ k ≤ requests.length,
        m.state.stack.depth < (called.performAll (requests.take k)).1.state.stack.depth) ∧
      ((called.performAll requests).1.perform .step).2.fault = none ∧
      ((called.performAll requests).1.perform .step).1.state.stack.depth ≤ m.state.stack.depth ∧
      m.state.stack.depth = 0 ∧ m.state.pc.toNat = 0x200 := by
    decide +kernel
  have hstep : m.step = .ok called := Machine.step_eq_ok_of_reply hreply
  have hreset : .reset ∉ requests := by simp [requests]
  obtain ⟨_, _, answered⟩ := return_to_own_call hcall hstep
  have hback := Machine.step_eq_ok_of_reply hlast
  obtain ⟨hsame, hbehind⟩ := ((answered requests hreset hdeep).2 _ hback).2 hshallow
  exact ⟨hcall, hstep, hreset, hdeep, _, hback, hsame.trans hdepth,
    hbehind.trans (congrArg (· + 2) hpc)⟩

end ChipEight
