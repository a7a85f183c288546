import ChipEight.Proofs.RequestHistories

/-!
# Halted machines

A machine whose step fails has halted. The failed step changes nothing, and since neither the
timers nor the keypad has a part in a fault, the next step fails in the same way, whatever the host
does in between, until it resets the machine or loads a program.
-/

namespace ChipEight

/-- Whether a request with a given answer can let a halted machine go on. -/
def HostRequest.restarts : HostRequest → HostReply → Bool
  | .reset, _ => true
  | .load _, reply => reply.fault.isNone
  | .loadFrom _, reply => reply.fault.isNone
  | .press _ _, _ => false
  | .step, _ => false
  | .tick, _ => false

namespace Machine

variable {m n : Machine} {fault : Fault}

theorem step_eq_error_iff : m.step = .error fault ↔ m.state.fault? = some fault := by
  rw [← of?_step, Fault.of?_eq_some_iff]

theorem perform_step_of_fault (h : m.state.fault? = some fault) :
    m.perform .step = (m, ⟨some fault, false⟩) := by
  rw [perform, step_eq_error_iff.2 h]
  rfl

theorem settle_of_fault (m : Machine) {outcome : Except Fault Machine}
    (h : (m.settle outcome).2.fault.isNone = false) : (m.settle outcome).1 = m := by
  cases outcome with
  | error fault => rfl
  | ok next => cases h

/-- A machine that differs at most in its timers and its keypad. -/
def Resembles (n m : Machine) : Prop :=
  ∃ timers keypad, n = { m with state := { m.state with timers }, keypad }

theorem Resembles.refl (m : Machine) : m.Resembles m := ⟨m.state.timers, m.keypad, rfl⟩

theorem Resembles.trans {last : Machine} (h : last.Resembles n) (h' : n.Resembles m) :
    last.Resembles m := by
  obtain ⟨timers, keypad, rfl⟩ := h
  obtain ⟨_, _, rfl⟩ := h'
  exact ⟨timers, keypad, rfl⟩

theorem Resembles.fault?_eq (h : n.Resembles m) : n.state.fault? = m.state.fault? := by
  obtain ⟨timers, keypad, rfl⟩ := h
  exact State.fault?_congr rfl rfl rfl rfl

theorem perform_press_resembles (m : Machine) (key : UInt8) (down : Bool) :
    (m.perform (.press key down)).1.Resembles m := by
  rcases m.settle_cases (m.press key down) with same | pressed
  · rw [perform, same]
    exact .refl m
  · obtain ⟨keypad, hnext⟩ := press_eq_ok pressed
    exact ⟨m.state.timers, keypad, hnext⟩

theorem perform_tick_resembles (m : Machine) : (m.perform .tick).1.Resembles m :=
  ⟨m.state.timers.tick, m.keypad, rfl⟩

/-- While nothing restarts it, a halted machine changes in its timers and its keypad only. -/
theorem Resembles.perform (hm : m.state.fault? = some fault) (h : n.Resembles m) {r : HostRequest}
    (hr : r.restarts (n.perform r).2 = false) : (n.perform r).1.Resembles m := by
  have hn : n.state.fault? = some fault := h.fault?_eq.trans hm
  cases r with
  | reset => cases hr
  | load program =>
    rw [Machine.perform, settle_of_fault n hr]
    exact h
  | loadFrom source =>
    rw [Machine.perform, settle_of_fault n hr]
    exact h
  | press key down => exact (n.perform_press_resembles key down).trans h
  | step =>
    rw [perform_step_of_fault hn]
    exact h
  | tick => exact n.perform_tick_resembles.trans h

theorem Resembles.performAll (hm : m.state.fault? = some fault) (h : n.Resembles m)
    {requests : List HostRequest}
    (hrequests : ∀ p ∈ requests.zip (n.performAll requests).2, p.1.restarts p.2 = false) :
    (n.performAll requests).1.Resembles m := by
  induction requests generalizing n with
  | nil => exact h
  | cons r rest ih =>
    rw [Machine.performAll, List.zip_cons_cons] at hrequests
    have first := h.perform hm (hrequests _ List.mem_cons_self)
    exact ih first fun p hp => hrequests p (List.mem_cons_of_mem _ hp)

end Machine

/-- A failed step changes nothing, and every step that no reset and no successful load separates
from it fails with the same fault, whatever else happens before and after; until then only the
timers and the keypad change. -/
theorem failed_step_final (m : Machine) (fault : Fault) (h : m.step = .error fault) :
    m.perform .step = (m, ⟨some fault, false⟩) ∧
    ∀ before after : List HostRequest,
      (∀ p ∈ before.zip (m.performAll before).2, p.1.restarts p.2 = false) →
      (m.performAll before).1.Resembles m ∧
      (m.performAll (before ++ .step :: after)).2[before.length]? = some ⟨some fault, false⟩ := by
  have halted := Machine.step_eq_error_iff.1 h
  refine ⟨Machine.perform_step_of_fault halted, fun before after hbefore => ?_⟩
  have same : m.Resembles m := ⟨m.state.timers, m.keypad, rfl⟩
  have later := same.performAll halted hbefore
  have still := Machine.perform_step_of_fault (later.fault?_eq.trans halted)
  refine ⟨later, ?_⟩
  rw [Machine.performAll_append, Machine.performAll, still]
  simp

/-- A program that only returns halts at once; ticks, keys and a program that is too long leave it
halted. -/
theorem failed_step_final_return :
    let m := ((Machine.initial (.ofList [])).performAll [.load [0x00, 0xEE]]).1
    let before : List HostRequest :=
      [.tick, .press 16 true, .press 3 true, .step, .load (List.replicate 3585 0)]
    m.step = .error (.stackUnderflow 0x202) ∧
    (∀ p ∈ before.zip (m.performAll before).2, p.1.restarts p.2 = false) ∧
    (m.performAll (before ++ [.step, .reset])).2[5]? =
      some ⟨some (.stackUnderflow 0x202), false⟩ := by
  intro m before
  have halted : m.step = .error (.stackUnderflow 0x202) := by
    rw [Machine.step_eq_error_iff]
    decide +kernel
  have quiet : ∀ p ∈ before.zip (m.performAll before).2, p.1.restarts p.2 = false := by
    decide +kernel
  exact ⟨halted, quiet, ((failed_step_final m _ halted).2 before [.reset] quiet).2⟩

end ChipEight
