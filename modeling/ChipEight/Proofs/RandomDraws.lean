import ChipEight.Proofs.HistoryMoments

/-!
# Random draws

Only the random instruction draws a word, one each time that a step carries it out, and the bits of
that word that its mask selects are all that a machine ever learns of its source. Two machines that
differ in their sources only are `Alike`; they stay so, with the same answers, until one of them
takes a bit of a random byte. A reset does not take drawn words back.
-/

namespace ChipEight

/-- Whether an instruction draws a random word. -/
def Instruction.draws : Instruction → Bool
  | .random _ _ => true
  | _ => false

theorem Instruction.randomWords_eq (i : Instruction) :
    i.randomWords = if i.draws then 1 else 0 := by
  cases i <;> rfl

private theorem RandomSource.skip_skip (source : RandomSource) (a b : Nat) :
    (source.skip a).skip b = source.skip (a + b) := by
  simp only [skip, Nat.add_assoc]

namespace Machine

variable {m n : Machine}

private theorem random_perform (m : Machine) (r : HostRequest) :
    (m.perform r).1.random =
      m.random.skip (if (Moment.mk m r).executed?.any Instruction.draws then 1 else 0) := by
  by_cases hreset : r = .reset
  · subst hreset
    rfl
  cases hexecuted : (Moment.mk m r).executed? with
  | some i =>
    rw [perform_of_executed hexecuted, Option.any_some, ← Instruction.randomWords_eq]
    rfl
  | none =>
    obtain ⟨memory, keypad, hnext⟩ := perform_of_not_executed hreset hexecuted
    rw [hnext]
    rfl

/-- A history draws as many words as it carries out random instructions. -/
theorem random_performAll (m : Machine) (requests : List HostRequest) :
    (m.performAll requests).1.random =
      m.random.skip ((m.executed requests).countP Instruction.draws) := by
  induction requests generalizing m with
  | nil => rfl
  | cons r rest ih =>
    rw [performAll, ih, random_perform, RandomSource.skip_skip, executed_cons, List.countP_append]
    cases (Moment.mk m r).executed? with
    | none => rfl
    | some i => simp [List.countP_cons]

/-- Two machines that differ at most in their sources of random words. -/
structure Alike (n m : Machine) : Prop where
  state_eq : n.state = m.state
  keypad_eq : n.keypad = m.keypad

/-- Two outcomes that fail with the same fault or succeed with machines that are alike. -/
def OutcomesAlike (a b : Except Fault Machine) : Prop :=
  match a, b with
  | .ok n, .ok m => n.Alike m
  | .error f, .error g => f = g
  | _, _ => False

theorem OutcomesAlike.settle {a b : Except Fault Machine} (h : n.Alike m)
    (houtcomes : OutcomesAlike a b) :
    (n.settle a).1.Alike (m.settle b).1 ∧ (n.settle a).2 = (m.settle b).2 := by
  cases a with
  | ok next =>
    cases b with
    | ok next' => exact ⟨houtcomes, rfl⟩
    | error fault => exact houtcomes.elim
  | error fault =>
    cases b with
    | ok next => exact houtcomes.elim
    | error fault' =>
      cases houtcomes
      exact ⟨h, rfl⟩

namespace Alike

theorem load (h : n.Alike m) (program : List UInt8) :
    OutcomesAlike (n.load program) (m.load program) := by
  have hloaded : (n.withProgram program).state = (m.withProgram program).state := by
    rw [withProgram, withProgram, h.state_eq]
  rw [load_eq, load_eq]
  split
  · exact ⟨hloaded, h.keypad_eq⟩
  · rfl

theorem loadFrom (h : n.Alike m) (source : List Delivery) :
    OutcomesAlike (n.loadFrom source) (m.loadFrom source) := by
  rw [Machine.loadFrom, Machine.loadFrom]
  cases Delivery.gather source with
  | ok program => exact h.load program
  | error fault => rfl

theorem press (h : n.Alike m) (key : UInt8) (down : Bool) :
    OutcomesAlike (n.press key down) (m.press key down) := by
  rw [Machine.press, Machine.press, h.keypad_eq]
  cases m.keypad.set key down with
  | ok keypad => exact ⟨h.state_eq, rfl⟩
  | error fault => rfl

theorem step (h : n.Alike m)
    (hmask : ∀ x k, (Moment.mk m .step).executed? = some (.random x k) → k = 0) :
    (n.perform .step).1.Alike (m.perform .step).1 ∧
      (n.perform .step).2 = (m.perform .step).2 := by
  have hstate := h.state_eq
  rcases perform_step_alike (n := n) (m := m) (by rw [hstate]) (by rw [hstate]) (by rw [hstate])
    (by rw [hstate]) with ⟨fault, hn, hm⟩ | ⟨i, _, hexecuted, hn, hm⟩
  · rw [hn, hm]
    exact ⟨h, rfl⟩
  · rw [hn, hm]
    refine ⟨⟨?_, h.keypad_eq⟩, rfl⟩
    rw [carryOut, carryOut, hstate, h.keypad_eq]
    exact i.effect_random_congr m.keypad m.random.nextByte m.state.fetched
      (fun x k hik => hmask x k (hik ▸ hexecuted)) _

theorem perform (h : n.Alike m) {r : HostRequest}
    (hmask : ∀ x k, (Moment.mk m r).executed? = some (.random x k) → k = 0) :
    (n.perform r).1.Alike (m.perform r).1 ∧ (n.perform r).2 = (m.perform r).2 := by
  cases r with
  | reset => exact ⟨⟨rfl, rfl⟩, rfl⟩
  | load program => exact (h.load program).settle h
  | loadFrom source => exact (h.loadFrom source).settle h
  | press key down => exact (h.press key down).settle h
  | step => exact h.step hmask
  | tick =>
    rw [Machine.perform, Machine.perform, Machine.tick, Machine.tick, beeps, beeps, h.state_eq]
    exact ⟨⟨rfl, h.keypad_eq⟩, rfl⟩

/-- A history that takes no bit of a random byte does not tell the machines apart. -/
theorem performAll (h : n.Alike m) {requests : List HostRequest}
    (hmask : ∀ x k, .random x k ∈ m.executed requests → k = 0) :
    (n.performAll requests).1.Alike (m.performAll requests).1 ∧
      (n.performAll requests).2 = (m.performAll requests).2 := by
  induction requests generalizing n m with
  | nil => exact ⟨h, rfl⟩
  | cons r rest ih =>
    rw [executed_cons] at hmask
    obtain ⟨first, hreply⟩ := h.perform fun x k hexecuted =>
      hmask x k (List.mem_append_left _ (by rw [hexecuted]; exact List.mem_singleton_self _))
    obtain ⟨others, hreplies⟩ := ih first fun x k hmem =>
      hmask x k (List.mem_append_right _ hmem)
    refine ⟨others, ?_⟩
    rw [Machine.performAll, Machine.performAll, hreply, hreplies]

end Alike

end Machine

/-- The random words of a history. It draws one for every random instruction that it carries out and
none otherwise; the next random instruction takes the bits of the next word that its mask selects.
A machine with another source gives the same answers and goes through the same states as long as no
random instruction selects a bit. A reset gives back the new machine if no word was drawn. -/
theorem words_drawn_by_random (m : Machine) (requests : List HostRequest) :
    let now := (m.performAll requests).1
    let drawn := (m.executed requests).countP Instruction.draws
    now.random = m.random.skip drawn ∧
    (∀ r, (now.perform r).1.random = now.random ∨
      ∃ x k, (Moment.mk now r).executed? = some (.random x k) ∧
        (now.perform r).1.random = now.random.skip 1) ∧
    (∀ x k next, now.state.instruction? = some (.random x k) → now.step = .ok next →
      next.state.register x = (m.random.words (m.random.drawn + drawn)).toUInt8 &&& k) ∧
    (∀ other : Machine, other.state = m.state → other.keypad = m.keypad →
      (∀ x k, .random x k ∈ m.executed requests → k = 0) →
      (other.performAll requests).2 = (m.performAll requests).2 ∧
      ∀ before, before <+: requests →
        (other.performAll before).1.state = (m.performAll before).1.state ∧
        (other.performAll before).1.keypad = (m.performAll before).1.keypad) ∧
    (∀ random, m = .initial random → drawn = 0 →
      now.reset = m ∧
      ∀ continuation, now.reset.performAll continuation = m.performAll continuation) := by
  intro now drawn
  have hrandom : now.random = m.random.skip drawn := m.random_performAll requests
  refine ⟨hrandom, ?_, ?_, ?_, ?_⟩
  · intro r
    rw [now.random_perform r]
    cases hexecuted : (Moment.mk now r).executed? with
    | none => exact .inl rfl
    | some i =>
      cases i with
      | random x k => exact .inr ⟨x, k, rfl, rfl⟩
      | _ => exact .inl rfl
  · intro x k next hi hstep
    rw [Machine.eq_carryOut hstep hi]
    refine (State.register_setRegister_self _ _ _).trans ?_
    rw [hrandom]
    rfl
  · intro other hstate hkeypad hmask
    have alike : other.Alike m := ⟨hstate, hkeypad⟩
    refine ⟨(alike.performAll hmask).2, ?_⟩
    rintro before ⟨after, rfl⟩
    rw [Machine.executed_append] at hmask
    obtain ⟨same, _⟩ := alike.performAll fun x k hmem => hmask x k (List.mem_append_left _ hmem)
    exact ⟨same.state_eq, same.keypad_eq⟩
  · rintro random rfl hnone
    have hreset : now.reset = .initial random := by
      rw [Machine.reset, hrandom, hnone]
      rfl
    exact ⟨hreset, fun continuation => by rw [hreset]⟩

/-- A program masks its first random byte away, so another source gives the same state, and keeps
the low digit of the second; a machine that has only been loaded is new again behind a reset. -/
theorem words_drawn_by_random_masked :
    let fresh := Machine.initial (.ofList [0x1AB, 0x2CD])
    let load := HostRequest.load [0xC0, 0x00, 0xC1, 0x0F]
    let m := (fresh.performAll [load]).1
    let other : Machine := { m with random := .ofList [0x7E] }
    let now := (m.performAll [.step]).1
    m.executed [.step] = [.random 0 0] ∧ now.random.drawn = 1 ∧
    (∃ next, now.step = .ok next ∧ next.state.register 1 = 0x0D) ∧
    (other.performAll [.step]).1.state = now.state ∧
    (fresh.performAll [load, .press 3 true, .tick]).1.reset = fresh := by
  intro fresh load m other now
  obtain ⟨hexecuted, hnext, hquiet⟩ :
      m.executed [.step] = [.random 0 0] ∧
      (Moment.mk now .step).executed? = some (.random 1 0x0F) ∧
      fresh.executed [load, .press 3 true, .tick] = [] := by
    decide +kernel
  have hmask : ∀ x k, .random x k ∈ m.executed [.step] → k = 0 := by
    simp [hexecuted]
  obtain ⟨hrandom, _, hmasked, hother, _⟩ := words_drawn_by_random m [.step]
  obtain ⟨_, _, _, _, hreset⟩ :=
    words_drawn_by_random fresh [load, .press 3 true, .tick]
  rw [hexecuted] at hrandom hmasked
  obtain ⟨_, _, hi⟩ := Machine.executed?_eq_some_iff.1 hnext
  have hstep := Machine.step_of_executed hnext
  refine ⟨hexecuted, congrArg RandomSource.drawn hrandom, ⟨_, hstep, ?_⟩, ?_, ?_⟩
  · exact (hmasked 1 0x0F _ hi hstep).trans (by decide)
  · exact ((hother other rfl rfl hmask).2 [.step] (List.prefix_refl _)).1
  · exact (hreset _ rfl (by rw [hquiet]; rfl)).1

end ChipEight
