import ChipEight.Proofs.HistoryMoments
import ChipEight.Proofs.InstructionTable

/-!
# Awaited keys

An instruction that waits for a key goes back to itself while no key is pressed. A step that does so
leaves the machine exactly as it was, so however long the machine waits, it is what the ticks and
the key events in between make of it without the steps. The first step that finds keys pressed takes
the lowest of them and goes on.
-/

namespace ChipEight

namespace Keypad

variable {p : Keypad} {key : UInt8}

theorem toNat_lt_of_isPressed (h : p.isPressed key = true) : key.toNat < 16 := by
  rw [isPressed] at h
  split at h
  · assumption
  · cases h

theorem toNat_ofNat_val (k : Fin 16) : (UInt8.ofNat k.val).toNat = k.val :=
  UInt8.toNat_ofNat_of_lt' (Nat.lt_trans k.isLt (by decide))

private theorem get_pressed (p : Keypad) (k : Fin 16) :
    p.pressed.get k = p.isPressed (UInt8.ofNat k.val) := by
  simp only [isPressed, toNat_ofNat_val, k.isLt, dif_pos]
  rfl

theorem firstPressed?_eq_none_iff : p.firstPressed? = none ↔ ∀ key, p.isPressed key = false := by
  rw [firstPressed?, List.find?_eq_none]
  constructor
  · refine fun h key => Bool.eq_false_iff.2 fun hpressed => ?_
    have hlt := toNat_lt_of_isPressed hpressed
    have hnot := h ⟨key.toNat, hlt⟩ (List.mem_finRange _)
    rw [get_pressed, UInt8.ofNat_toNat] at hnot
    exact hnot hpressed
  · intro h k _
    rw [get_pressed, h]
    exact Bool.false_ne_true

theorem lowest_of_firstPressed? {k : Fin 16} (h : p.firstPressed? = some k) :
    p.isPressed (UInt8.ofNat k.val) = true ∧
      ∀ key, p.isPressed key = true → UInt8.ofNat k.val ≤ key := by
  rw [firstPressed?, List.find?_eq_some_iff_getElem] at h
  obtain ⟨hpressed, i, hi, rfl, hbefore⟩ := h
  refine ⟨get_pressed p _ ▸ hpressed, fun key hkey => ?_⟩
  have hlt := toNat_lt_of_isPressed hkey
  rw [UInt8.le_iff_toNat_le, toNat_ofNat_val, List.getElem_finRange]
  refine Nat.le_of_not_lt fun hlower => ?_
  have hnot := hbefore key.toNat hlower
  rw [List.getElem_finRange, get_pressed] at hnot
  simp [hkey] at hnot

end Keypad

theorem Instruction.ofWord?_awaitKey (x : Register) :
    ofWord? (.ofRegisterByte 0xF x 0x0A) = some (.awaitKey x) :=
  ofWord?_toWord (.awaitKey x)

namespace State

variable {s : State} {keypad : Keypad}

theorem instruction?_of_wordAt {w : Word} (h : s.memory.wordAt s.pc.toNat = .ok w) :
    s.instruction? = Instruction.ofWord? w := by
  rw [Memory.wordAt_eq] at h
  split at h
  · next hfits =>
    cases h
    rw [instruction?_eq, if_pos hfits]
  · cases h

theorem awaitKey_fetched_of_none (h : keypad.firstPressed? = none) (x : Register) :
    s.fetched.awaitKey keypad x = s := by
  have hback : s.pc + 2 - 2 = s.pc := UInt16.add_sub_cancel s.pc 2
  simp only [awaitKey, h, fetched, hback]

theorem awaitKey_fetched_of_some {k : Fin 16} (h : keypad.firstPressed? = some k) (x : Register) :
    s.fetched.awaitKey keypad x =
      { s with
        registers := s.registers.set x.val (UInt8.ofNat k.val) x.isLt
        pc := UInt16.ofNat (s.pc.toNat + 2) } := by
  have hpc : s.pc + 2 = UInt16.ofNat (s.pc.toNat + 2) := by simp
  simp only [awaitKey, h, fetched, hpc]
  rfl

end State

namespace Machine

variable {m n : Machine} {x : Register}

private theorem Resembles.pc_eq (h : n.Resembles m) : n.state.pc = m.state.pc := by
  obtain ⟨_, _, rfl⟩ := h
  rfl

theorem Resembles.instruction?_eq (h : n.Resembles m) :
    n.state.instruction? = m.state.instruction? := by
  obtain ⟨_, _, rfl⟩ := h
  exact State.instruction?_congr rfl rfl

theorem perform_step_of_awaitKey (h : m.state.instruction? = some (.awaitKey x)) :
    m.perform .step = ({ m with state := m.state.fetched.awaitKey m.keypad x }, .done) := by
  have hexecuted : (Moment.mk m .step).executed? = some (.awaitKey x) :=
    executed?_eq_some_iff.2 ⟨rfl, State.fault?_of_instruction h, h⟩
  rw [perform_of_executed hexecuted]
  rfl

/-- While no step finds a key pressed, steps change nothing and ticks and key events change the
timers and the keypad only. -/
theorem performAll_awaiting (h : m.state.instruction? = some (.awaitKey x))
    {requests : List HostRequest}
    (hkinds : ∀ r ∈ requests, r = .step ∨ r = .tick ∨ ∃ key down, r = .press key down)
    (hreleased : ∀ p ∈ m.moments requests, p.request = .step →
      p.machine.keypad.firstPressed? = none) :
    (∀ q ∈ requests.zip (m.performAll requests).2, q.1 = .step → q.2 = .done) ∧
      (m.performAll requests).1 = (m.performAll (requests.filter fun r => !r.isStep)).1 ∧
      (m.performAll requests).1.Resembles m := by
  induction requests generalizing m with
  | nil => exact ⟨by simp, rfl, .refl m⟩
  | cons r rest ih =>
    rw [moments] at hreleased
    have hrest (hnext : (m.perform r).1.Resembles m) :=
      ih (hnext.instruction?_eq.trans h) (fun r' hr' => hkinds r' (List.mem_cons_of_mem _ hr'))
        fun p hp => hreleased p (List.mem_cons_of_mem _ hp)
    rcases hkinds r List.mem_cons_self with rfl | rfl | ⟨key, down, rfl⟩
    · have hstep : m.perform .step = (m, .done) := by
        have hnone := hreleased _ List.mem_cons_self rfl
        rw [perform_step_of_awaitKey h, State.awaitKey_fetched_of_none hnone]
      rw [hstep] at hrest
      obtain ⟨hreplies, hmachine, hlast⟩ := hrest (.refl m)
      simp only [performAll, hstep]
      exact ⟨by simpa using hreplies, hmachine, hlast⟩
    · have hnext := m.perform_tick_resembles
      obtain ⟨hreplies, hmachine, hlast⟩ := hrest hnext
      exact ⟨by simpa [performAll] using hreplies, hmachine, hlast.trans hnext⟩
    · have hnext := m.perform_press_resembles key down
      obtain ⟨hreplies, hmachine, hlast⟩ := hrest hnext
      exact ⟨by simpa [performAll] using hreplies, hmachine, hlast.trans hnext⟩

end Machine

/-- A machine that waits for a key waits without side effects. As long as every step finds all keys
released, each of them succeeds and the machine is what the ticks and the key events alone make of
it, which differs from the start in the timers and the keypad at most. The first step that finds a
key pressed stores the lowest pressed key, goes on behind the instruction and changes nothing
else. -/
theorem awaited_key_blocks (m : Machine) (x : Register)
    (hword : m.state.memory.wordAt m.state.pc.toNat = .ok (.ofRegisterByte 0xF x 0x0A))
    (requests : List HostRequest)
    (hkinds : ∀ r ∈ requests, r = .step ∨ r = .tick ∨ ∃ key down, r = .press key down)
    (hreleased : ∀ p ∈ m.moments requests, p.request = .step →
      ∀ key, p.machine.keypad.isPressed key = false) :
    let last := (m.performAll requests).1
    (∀ q ∈ requests.zip (m.performAll requests).2, q.1 = .step → q.2 = .done) ∧
    last = (m.performAll (requests.filter fun r => !r.isStep)).1 ∧ last.Resembles m ∧
    ∀ key, last.keypad.isPressed key = true → ∃ lowest,
      last.keypad.isPressed lowest = true ∧
      (∀ other, last.keypad.isPressed other = true → lowest ≤ other) ∧
      last.perform .step =
        ({ last with
          state := { last.state with
            registers := last.state.registers.set x.val lowest x.isLt
            pc := UInt16.ofNat (m.state.pc.toNat + 2) } }, .done) := by
  intro last
  have hfirst : m.state.instruction? = some (.awaitKey x) :=
    (State.instruction?_of_wordAt hword).trans (Instruction.ofWord?_awaitKey x)
  obtain ⟨hreplies, hmachine, hlast⟩ := Machine.performAll_awaiting hfirst hkinds fun p hp hstep =>
    Keypad.firstPressed?_eq_none_iff.2 (hreleased p hp hstep)
  refine ⟨hreplies, hmachine, hlast, fun key hkey => ?_⟩
  cases hpressed : last.keypad.firstPressed? with
  | none =>
    rw [Keypad.firstPressed?_eq_none_iff.1 hpressed key] at hkey
    cases hkey
  | some k =>
    obtain ⟨hdown, hlowest⟩ := Keypad.lowest_of_firstPressed? hpressed
    refine ⟨_, hdown, hlowest, ?_⟩
    rw [Machine.perform_step_of_awaitKey (hlast.instruction?_eq.trans hfirst),
      State.awaitKey_fetched_of_some hpressed, hlast.pc_eq]

/-- A program writes the word of the instruction to the beginning of memory and waits there, so that
going back leads to address zero. A key that is pressed and released between two steps goes
unnoticed; of the two that the last step finds it takes the lower one. -/
theorem awaited_key_blocks_unnoticed :
    let m := ((Machine.initial (.ofList [])).performAll
      [.load [0xA0, 0x00, 0x60, 0xF3, 0x61, 0x0A, 0xF1, 0x55, 0x10, 0x00],
        .step, .step, .step, .step, .step]).1
    let requests : List HostRequest :=
      [.step, .tick, .step, .press 7 true, .press 16 true, .press 7 false, .step, .step,
        .press 12 true, .press 4 true]
    let last := (m.performAll requests).1
    m.state.pc.toNat = 0 ∧
    m.state.memory.wordAt m.state.pc.toNat = .ok (.ofRegisterByte 0xF 3 0x0A) ∧
    (∀ p ∈ m.moments requests, p.request = .step →
      ∀ key, p.machine.keypad.isPressed key = false) ∧
    last.Resembles m ∧ last.keypad.isPressed 4 = true ∧ last.keypad.isPressed 12 = true ∧
    ∃ awake, last.perform .step = (awake, .done) ∧
      awake.state.pc.toNat = 2 ∧ awake.state.register 3 = 4 := by
  intro m requests last
  obtain ⟨hpc, hcontents, hnone, hfour, htwelve, hlower⟩ : m.state.pc.toNat = 0 ∧
      m.state.memory.word m.state.pc.toNat = .ofRegisterByte 0xF 3 0x0A ∧
      (∀ p ∈ m.moments requests, p.request.isStep → p.machine.keypad.firstPressed? = none) ∧
      last.keypad.isPressed 4 = true ∧ last.keypad.isPressed 12 = true ∧
      (∀ k : Fin 4, last.keypad.isPressed (UInt8.ofNat k.val) = false) := by
    decide +kernel
  have hword : m.state.memory.wordAt m.state.pc.toNat = .ok (.ofRegisterByte 0xF 3 0x0A) := by
    rw [Memory.wordAt_eq, hcontents, hpc]
    rfl
  have hkinds : ∀ r ∈ requests, r = .step ∨ r = .tick ∨ ∃ key down, r = .press key down := by
    simp [requests]
  have hreleased : ∀ p ∈ m.moments requests, p.request = .step →
      ∀ key, p.machine.keypad.isPressed key = false := fun p hp hstep =>
    Keypad.firstPressed?_eq_none_iff.1 (hnone p hp (by rw [hstep]; rfl))
  obtain ⟨_, _, hlast, hwakes⟩ := awaited_key_blocks m 3 hword requests hkinds hreleased
  obtain ⟨lowest, hdown, hleast, hstep⟩ := hwakes 4 hfour
  have hkey : lowest = 4 := by
    refine UInt8.le_antisymm (hleast 4 hfour) (UInt8.not_lt.1 fun hlt => ?_)
    have hbelow := hlower ⟨lowest.toNat, UInt8.lt_iff_toNat_lt.1 hlt⟩
    rw [UInt8.ofNat_toNat, hdown] at hbelow
    cases hbelow
  refine ⟨hpc, hword, hreleased, hlast, hfour, htwelve, _, hstep, ?_, ?_⟩
  · rw [hpc]
    rfl
  · rw [hkey, State.register]
    exact Vector.getElem_set_self _

end ChipEight
