import ChipEight.Proofs.HaltedMachines
import ChipEight.Proofs.InstructionEffects

/-!
# Moments of a history

A history request by request, each with the machine that it is made of. A moment tells which
instruction a step finds and which one it carries out. Every request is a reset, or carries out an
instruction, or does no more to a machine than change its memory and its keypad and let its timers
tick.
-/

namespace ChipEight

namespace HostRequest

def isStep : HostRequest → Bool
  | .step => true
  | _ => false

def isTick : HostRequest → Bool
  | .tick => true
  | _ => false

end HostRequest

/-- A request of a history with the machine that it is made of. -/
structure Moment where
  machine : Machine
  request : HostRequest

namespace Moment

/-- The instruction that a step finds, whether the step succeeds or not. -/
def attempted? (p : Moment) : Option Instruction :=
  if p.request.isStep then p.machine.state.instruction? else none

/-- The instruction that a step carries out. -/
def executed? (p : Moment) : Option Instruction :=
  if (p.machine.perform p.request).2.fault.isNone then p.attempted? else none

end Moment

namespace Machine

/-- The moments of a history, the earliest first. -/
def moments (m : Machine) : List HostRequest → List Moment
  | [] => []
  | r :: rest => ⟨m, r⟩ :: (m.perform r).1.moments rest

def attempted (m : Machine) (requests : List HostRequest) : List Instruction :=
  (m.moments requests).filterMap Moment.attempted?

def executed (m : Machine) (requests : List HostRequest) : List Instruction :=
  (m.moments requests).filterMap Moment.executed?

def beepCount (m : Machine) (requests : List HostRequest) : Nat :=
  (m.performAll requests).2.countP (·.beeped)

theorem moments_append (m : Machine) (before after : List HostRequest) :
    m.moments (before ++ after) = m.moments before ++ (m.performAll before).1.moments after := by
  induction before generalizing m with
  | nil => rfl
  | cons r rest ih => simp [moments, performAll, ih]

theorem performAll_concat (m : Machine) (requests : List HostRequest) (r : HostRequest) :
    (m.performAll (requests ++ [r])).1 = ((m.performAll requests).1.perform r).1 := by
  rw [performAll_append]
  rfl

theorem moments_concat (m : Machine) (requests : List HostRequest) (r : HostRequest) :
    m.moments (requests ++ [r]) = m.moments requests ++ [⟨(m.performAll requests).1, r⟩] :=
  m.moments_append requests [r]

theorem executed_cons (m : Machine) (r : HostRequest) (rest : List HostRequest) :
    m.executed (r :: rest) =
      (Moment.mk m r).executed?.toList ++ (m.perform r).1.executed rest := by
  rw [executed, moments, List.filterMap_cons]
  cases (Moment.mk m r).executed? <;> rfl

theorem executed_append (m : Machine) (before after : List HostRequest) :
    m.executed (before ++ after) = m.executed before ++ (m.performAll before).1.executed after := by
  rw [executed, moments_append, List.filterMap_append]
  rfl

theorem attempted_cons (m : Machine) (r : HostRequest) (rest : List HostRequest) :
    m.attempted (r :: rest) =
      (Moment.mk m r).attempted?.toList ++ (m.perform r).1.attempted rest := by
  rw [attempted, moments, List.filterMap_cons]
  cases (Moment.mk m r).attempted? <;> rfl

theorem attempted_append (m : Machine) (before after : List HostRequest) :
    m.attempted (before ++ after) =
      m.attempted before ++ (m.performAll before).1.attempted after := by
  rw [attempted, moments_append, List.filterMap_append]
  rfl

theorem beepCount_cons (m : Machine) (r : HostRequest) (rest : List HostRequest) :
    m.beepCount (r :: rest) =
      (if (m.perform r).2.beeped then 1 else 0) + (m.perform r).1.beepCount rest := by
  rw [beepCount, performAll, List.countP_cons, Nat.add_comm]
  rfl

theorem beepCount_append (m : Machine) (before after : List HostRequest) :
    m.beepCount (before ++ after) =
      m.beepCount before + (m.performAll before).1.beepCount after := by
  rw [beepCount, performAll_append, List.countP_append]
  rfl

theorem beeped_perform (m : Machine) (r : HostRequest) :
    (m.perform r).2.beeped = (r.isTick && m.beeps) := by
  have settled (outcome : Except Fault Machine) : (m.settle outcome).2.beeped = false := by
    cases outcome <;> rfl
  cases r with
  | reset => rfl
  | tick => exact (Bool.true_and _).symm
  | _ => exact settled _

theorem executed?_eq_some_iff {m : Machine} {r : HostRequest} {i : Instruction} :
    (Moment.mk m r).executed? = some i ↔
      r = .step ∧ m.state.fault? = none ∧ m.state.instruction? = some i := by
  cases r with
  | step =>
    have hstep := m.of?_step
    cases houtcome : m.step with
    | ok next =>
      rw [houtcome] at hstep
      simp [Moment.executed?, Moment.attempted?, HostRequest.isStep, perform, settle, houtcome,
        HostReply.done, ← hstep]
    | error fault =>
      rw [houtcome] at hstep
      simp [Moment.executed?, perform, settle, houtcome, ← hstep]
  | _ => simp [Moment.executed?, Moment.attempted?, HostRequest.isStep]

theorem step_of_executed {m : Machine} {r : HostRequest} {i : Instruction}
    (h : (Moment.mk m r).executed? = some i) : m.step = .ok (m.carryOut i) := by
  obtain ⟨_, hfault, hi⟩ := executed?_eq_some_iff.1 h
  exact step_eq_ok_iff_carryOut.2 ⟨hfault, i, hi, rfl⟩

theorem perform_of_executed {m : Machine} {r : HostRequest} {i : Instruction}
    (h : (Moment.mk m r).executed? = some i) : m.perform r = (m.carryOut i, .done) := by
  have hstep := step_of_executed h
  obtain ⟨rfl, _⟩ := executed?_eq_some_iff.1 h
  rw [perform, hstep]
  rfl

/-- Machines that agree on everything that decides what a step does take their steps alike: both
fail with the same fault or both carry out the same instruction. -/
theorem perform_step_alike {n m : Machine} (hpc : n.state.pc = m.state.pc)
    (hindex : n.state.index = m.state.index) (hstack : n.state.stack = m.state.stack)
    (hmemory : n.state.memory = m.state.memory) :
    (∃ fault, n.perform .step = (n, ⟨some fault, false⟩) ∧
      m.perform .step = (m, ⟨some fault, false⟩)) ∨
    ∃ i, m.state.instruction? = some i ∧ (Moment.mk m .step).executed? = some i ∧
      n.perform .step = (n.carryOut i, .done) ∧ m.perform .step = (m.carryOut i, .done) := by
  have sameFault : n.state.fault? = m.state.fault? :=
    State.fault?_congr hpc hindex hstack hmemory
  have sameInstruction : n.state.instruction? = m.state.instruction? :=
    State.instruction?_congr hpc hmemory
  cases houtcome : m.step with
  | error fault =>
    have hfault := step_eq_error_iff.1 houtcome
    exact .inl ⟨fault, perform_step_of_fault (sameFault.trans hfault),
      perform_step_of_fault hfault⟩
  | ok next =>
    obtain ⟨hfault, i, hi, _⟩ := step_eq_ok_iff_carryOut.1 houtcome
    have hm : (Moment.mk m .step).executed? = some i :=
      executed?_eq_some_iff.2 ⟨rfl, hfault, hi⟩
    have hn : (Moment.mk n .step).executed? = some i :=
      executed?_eq_some_iff.2 ⟨rfl, sameFault.trans hfault, sameInstruction.trans hi⟩
    exact .inr ⟨i, hi, hm, perform_of_executed hn, perform_of_executed hm⟩

theorem step_eq_ok_of_reply {m : Machine} (h : (m.perform .step).2.fault = none) :
    m.step = .ok (m.perform .step).1 := by
  rw [perform] at h ⊢
  cases houtcome : m.step with
  | ok next => rfl
  | error fault =>
    rw [houtcome] at h
    cases h

theorem perform_of_not_executed {m : Machine} {r : HostRequest} (hreset : r ≠ .reset)
    (h : (Moment.mk m r).executed? = none) :
    ∃ memory keypad, (m.perform r).1 =
      { m with
        state := { m.state with
          memory, timers := if r.isTick then m.state.timers.tick else m.state.timers }
        keypad } := by
  cases r with
  | reset => exact absurd rfl hreset
  | load program =>
    rcases m.settle_cases (m.load program) with same | loaded
    · exact ⟨m.state.memory, m.keypad, same⟩
    · obtain ⟨memory, hnext⟩ := load_eq_ok loaded
      exact ⟨memory, m.keypad, hnext⟩
  | loadFrom source =>
    rcases m.settle_cases (m.loadFrom source) with same | loaded
    · exact ⟨m.state.memory, m.keypad, same⟩
    · obtain ⟨memory, hnext⟩ := loadFrom_eq_ok loaded
      exact ⟨memory, m.keypad, hnext⟩
  | press key down =>
    rcases m.settle_cases (m.press key down) with same | pressed
    · exact ⟨m.state.memory, m.keypad, same⟩
    · obtain ⟨keypad, hnext⟩ := press_eq_ok pressed
      exact ⟨m.state.memory, keypad, hnext⟩
  | step =>
    rcases m.settle_cases m.step with same | stepped
    · exact ⟨m.state.memory, m.keypad, same⟩
    · obtain ⟨hfault, i, hi, _⟩ := step_eq_ok_iff_carryOut.1 stepped
      rw [executed?_eq_some_iff.2 ⟨rfl, hfault, hi⟩] at h
      cases h
  | tick => exact ⟨m.state.memory, m.keypad, rfl⟩

end Machine
end ChipEight
