import ChipEight.Proofs.StepOutcomes
import ChipEight.HostRequest

/-!
# Histories of requests

What a list of requests makes of a machine. A property of machines that every single request keeps
is kept by every history; with it, facts about all the machines that a host can ever hold reduce to
facts about new machines and about one request.
-/

namespace ChipEight.Machine

/-- A machine that some history of requests makes of a new one. -/
def Reachable (m : Machine) : Prop :=
  ∃ random requests, m = ((initial random).performAll requests).1

theorem performAll_append (m : Machine) (before after : List HostRequest) :
    m.performAll (before ++ after) =
      (((m.performAll before).1.performAll after).1,
        (m.performAll before).2 ++ ((m.performAll before).1.performAll after).2) := by
  induction before generalizing m with
  | nil => rfl
  | cons r rest ih => simp [performAll, ih]

@[simp] theorem length_performAll (m : Machine) (requests : List HostRequest) :
    (m.performAll requests).2.length = requests.length := by
  induction requests generalizing m with
  | nil => rfl
  | cons r rest ih => simp [performAll, ih]

theorem performAll_keeps {P : Machine → Prop} (keeps : ∀ m r, P m → P (m.perform r).1)
    {m : Machine} (h : P m) (requests : List HostRequest) : P (m.performAll requests).1 := by
  induction requests generalizing m with
  | nil => exact h
  | cons r rest ih => exact ih (keeps m r h)

/-- What new machines have and every request keeps, every reachable machine has. -/
theorem Reachable.keeps {P : Machine → Prop} (fresh : ∀ random, P (initial random))
    (keeps : ∀ m r, P m → P (m.perform r).1) {m : Machine} (h : m.Reachable) : P m := by
  obtain ⟨random, requests, rfl⟩ := h
  exact performAll_keeps keeps (fresh random) requests

/-- The machine with a program in memory. -/
def withProgram (m : Machine) (program : List UInt8) : Machine :=
  { m with
    state := { m.state with
      memory := ⟨overlay m.state.memory.bytes Memory.programStart program⟩ } }

theorem load_eq (m : Machine) (program : List UInt8) :
    m.load program =
      if program.length ≤ 3584 then .ok (m.withProgram program)
      else .error (.romTooLarge program.length 3584) := by
  have hcapacity : Memory.programCapacity = 3584 := rfl
  rw [load, hcapacity]
  by_cases hfits : program.length ≤ 3584
  · have inside : Memory.Inside Memory.programStart program.length := by
      have hstart : Memory.programStart = 512 := rfl
      exact .inr (by rw [hstart, Memory.size]; omega)
    rw [if_neg (Nat.not_lt.2 hfits), if_pos hfits, Memory.write_eq, if_pos inside]
    rfl
  · rw [if_pos (Nat.lt_of_not_le hfits), if_neg hfits]

theorem perform_load (m : Machine) (program : List UInt8) :
    m.perform (.load program) =
      if program.length ≤ 3584 then (m.withProgram program, .done)
      else (m, ⟨some (.romTooLarge program.length 3584), false⟩) := by
  rw [perform, load_eq]
  split <;> rfl

theorem load_eq_ok {m n : Machine} {program : List UInt8} (h : m.load program = .ok n) :
    ∃ memory, n = { m with state := { m.state with memory } } := by
  rw [load_eq] at h
  split at h
  · cases h
    exact ⟨_, rfl⟩
  · cases h

theorem loadFrom_eq_ok {m n : Machine} {source : List Delivery} (h : m.loadFrom source = .ok n) :
    ∃ memory, n = { m with state := { m.state with memory } } := by
  rw [loadFrom] at h
  split at h
  · exact load_eq_ok h
  · cases h

theorem press_eq_ok {m n : Machine} {key : UInt8} {down : Bool} (h : m.press key down = .ok n) :
    ∃ keypad, n = { m with keypad } := by
  obtain ⟨keypad, _, rfl⟩ := Fault.map_eq_ok_iff.1 h
  exact ⟨keypad, rfl⟩

theorem settle_cases (m : Machine) (outcome : Except Fault Machine) :
    (m.settle outcome).1 = m ∨ outcome = .ok (m.settle outcome).1 := by
  cases outcome with
  | error fault => exact .inl rfl
  | ok next => exact .inr rfl

/-- All that a request can make of a machine: nothing, a new one, one with other memory or another
keypad, the one behind a step, or the one behind a tick. -/
theorem perform_cases (m : Machine) (r : HostRequest) :
    (m.perform r).1 = m ∨ (m.perform r).1 = m.reset ∨
    (∃ memory, (m.perform r).1 = { m with state := { m.state with memory } }) ∨
    (∃ keypad, (m.perform r).1 = { m with keypad }) ∨
    m.step = .ok (m.perform r).1 ∨ (m.perform r).1 = m.tick := by
  cases r with
  | reset => exact .inr (.inl rfl)
  | load program =>
    rcases m.settle_cases (m.load program) with h | h
    · exact .inl h
    · exact .inr (.inr (.inl (load_eq_ok h)))
  | loadFrom source =>
    rcases m.settle_cases (m.loadFrom source) with h | h
    · exact .inl h
    · exact .inr (.inr (.inl (loadFrom_eq_ok h)))
  | press key down =>
    rcases m.settle_cases (m.press key down) with h | h
    · exact .inl h
    · exact .inr (.inr (.inr (.inl (press_eq_ok h))))
  | step =>
    rcases m.settle_cases m.step with h | h
    · exact .inl h
    · exact .inr (.inr (.inr (.inr (.inl h))))
  | tick => exact .inr (.inr (.inr (.inr (.inr rfl))))

end ChipEight.Machine
