import ChipEight.Proofs.HistoryMoments

/-!
# Interleaved requests

Requests that have nothing to do with each other can be made in any order. A key event commutes with
a tick, with an event of another key and with a step that does not ask for a key; a step that does
not use a timer commutes with a tick. So a history of steps and ticks in which no step finds an
instruction that uses a timer comes to the same in every order.
-/

namespace ChipEight.Machine

/-- Two requests lead to the same machine in either order, with the same answer to each. -/
structure Commute (m : Machine) (r r' : HostRequest) : Prop where
  machine_eq : ((m.perform r).1.perform r').1 = ((m.perform r').1.perform r).1
  reply_eq : (m.perform r).2 = ((m.perform r').1.perform r).2
  reply_eq' : ((m.perform r).1.perform r').2 = (m.perform r').2

def stepReplies (m : Machine) (requests : List HostRequest) : List HostReply :=
  ((requests.zip (m.performAll requests).2).filter (·.1.isStep)).map (·.2)

/-- Two histories of one machine lead to the same machine with the same steps and as many beeps. -/
structure SameCourse (m : Machine) (first second : List HostRequest) : Prop where
  machine_eq : (m.performAll first).1 = (m.performAll second).1
  stepReplies_eq : m.stepReplies first = m.stepReplies second
  beepCount_eq : m.beepCount first = m.beepCount second
  attempted_eq : m.attempted first = m.attempted second

variable {m : Machine} {r r' : HostRequest}

private theorem Commute.of_perform {a b : HostReply} {n n' last : Machine}
    (h : m.perform r = (n, a)) (h' : m.perform r' = (n', b))
    (hlast : n.perform r' = (last, b)) (hlast' : n'.perform r = (last, a)) : m.Commute r r' := by
  constructor
  · rw [h, h', hlast, hlast']
  · rw [h, h', hlast']
  · rw [h, h', hlast]

theorem timers_carryOut {i : Instruction} (h : i.usesTimers = false) :
    (m.carryOut i).state.timers = m.state.timers := by
  rw [carryOut, Instruction.effect_timers]
  cases i with
  | setDelay x => cases h
  | setSound x => cases h
  | _ => rfl

theorem carryOut_tick {i : Instruction} (h : i.usesTimers = false) :
    m.tick.carryOut i = (m.carryOut i).tick := by
  calc m.tick.carryOut i
      = ⟨i.effect m.keypad m.random.nextByte
          { m.state.fetched with timers := m.state.timers.tick },
          m.keypad, m.random.skip i.randomWords⟩ := rfl
    _ = { m.carryOut i with
          state := { (m.carryOut i).state with timers := m.state.timers.tick } } := by
      rw [i.effect_with_timers _ _ _ h]
      rfl
    _ = (m.carryOut i).tick := by
      rw [tick, timers_carryOut h]

theorem carryOut_keypad {i : Instruction} (h : i.readsKeypad = false) (keypad : Keypad) :
    carryOut { m with keypad } i = { m.carryOut i with keypad } := by
  rw [carryOut, carryOut, i.effect_keypad_congr m.keypad _ _ h]

theorem commute_step_tick (h : ∀ i, m.state.instruction? = some i → i.usesTimers = false) :
    m.Commute .step .tick := by
  rcases perform_step_alike (n := m.tick) (m := m) rfl rfl rfl rfl with
    ⟨fault, hticked, hstep⟩ | ⟨i, hi, _, hticked, hstep⟩
  · exact .of_perform hstep rfl rfl hticked
  · have hfree := h i hi
    refine .of_perform hstep rfl ?_ hticked
    rw [carryOut_tick hfree, perform, beeps, beeps, timers_carryOut hfree]

private theorem perform_press_of_lt {key : UInt8} (h : key.toNat < 16) (down : Bool) (n : Machine) :
    n.perform (.press key down) =
      ({ n with keypad := ⟨n.keypad.pressed.set key.toNat down h⟩ }, .done) := by
  rw [perform, press, Keypad.set, dif_pos h]
  rfl

private theorem perform_press_of_not_lt {key : UInt8} (h : ¬ key.toNat < 16) (down : Bool)
    (n : Machine) :
    n.perform (.press key down) = (n, ⟨some (.invalidKey key), false⟩) := by
  rw [perform, press, Keypad.set, dif_neg h]
  rfl

theorem perform_press (key : UInt8) (down : Bool) (p : Keypad) :
    ∃ keypad reply, ∀ n : Machine, n.keypad = p →
      n.perform (.press key down) = ({ n with keypad }, reply) := by
  by_cases hkey : key.toNat < 16
  · refine ⟨⟨p.pressed.set key.toNat down hkey⟩, .done, ?_⟩
    rintro n rfl
    exact perform_press_of_lt hkey down n
  · refine ⟨p, ⟨some (.invalidKey key), false⟩, ?_⟩
    rintro n rfl
    exact perform_press_of_not_lt hkey down n

theorem commute_press_tick (m : Machine) (key : UInt8) (down : Bool) :
    m.Commute (.press key down) .tick := by
  obtain ⟨keypad, reply, hpress⟩ := perform_press key down m.keypad
  exact .of_perform (hpress m rfl) rfl rfl (hpress m.tick rfl)

theorem commute_press_step (key : UInt8) (down : Bool)
    (h : ∀ i, m.state.instruction? = some i → i.readsKeypad = false) :
    m.Commute (.press key down) .step := by
  obtain ⟨keypad, reply, hpress⟩ := perform_press key down m.keypad
  rcases perform_step_alike (n := { m with keypad }) (m := m) rfl rfl rfl rfl with
    ⟨fault, hpressed, hstep⟩ | ⟨i, hi, _, hpressed, hstep⟩
  · exact .of_perform (hpress m rfl) hstep hpressed (hpress m rfl)
  · rw [carryOut_keypad (h i hi)] at hpressed
    exact .of_perform (hpress m rfl) hstep hpressed (hpress (m.carryOut i) rfl)

theorem commute_press_press (m : Machine) {key other : UInt8} (h : other ≠ key)
    (down otherDown : Bool) : m.Commute (.press key down) (.press other otherDown) := by
  by_cases hkey : key.toNat < 16
  · by_cases hother : other.toNat < 16
    · have hplaces : key.toNat ≠ other.toNat := fun e => h (UInt8.toNat_inj.1 e.symm)
      refine .of_perform (perform_press_of_lt hkey down _) (perform_press_of_lt hother otherDown _)
        (perform_press_of_lt hother otherDown _) ?_
      rw [perform_press_of_lt hkey down]
      dsimp only
      rw [Vector.set_comm _ _ hplaces]
    · exact .of_perform (perform_press_of_lt hkey down _)
        (perform_press_of_not_lt hother otherDown _) (perform_press_of_not_lt hother otherDown _)
        (perform_press_of_lt hkey down _)
  · obtain ⟨_, _, hpress⟩ := perform_press other otherDown m.keypad
    exact .of_perform (perform_press_of_not_lt hkey down _) (hpress m rfl) (hpress m rfl)
      (perform_press_of_not_lt hkey down _)

namespace SameCourse

variable {first second third : List HostRequest}

theorem refl (m : Machine) (requests : List HostRequest) : m.SameCourse requests requests :=
  ⟨rfl, rfl, rfl, rfl⟩

theorem symm (h : m.SameCourse first second) : m.SameCourse second first :=
  ⟨h.machine_eq.symm, h.stepReplies_eq.symm, h.beepCount_eq.symm, h.attempted_eq.symm⟩

theorem trans (h : m.SameCourse first second) (h' : m.SameCourse second third) :
    m.SameCourse first third :=
  ⟨h.machine_eq.trans h'.machine_eq, h.stepReplies_eq.trans h'.stepReplies_eq,
    h.beepCount_eq.trans h'.beepCount_eq, h.attempted_eq.trans h'.attempted_eq⟩

end SameCourse

theorem stepReplies_cons (m : Machine) (r : HostRequest) (rest : List HostRequest) :
    m.stepReplies (r :: rest) =
      (if r.isStep then [(m.perform r).2] else []) ++ (m.perform r).1.stepReplies rest := by
  rw [stepReplies, performAll, List.zip_cons_cons, List.filter_cons]
  cases r.isStep <;> rfl

theorem SameCourse.cons {rest rest' : List HostRequest}
    (h : (m.perform r).1.SameCourse rest rest') : m.SameCourse (r :: rest) (r :: rest') := by
  constructor
  · exact h.machine_eq
  · rw [stepReplies_cons, stepReplies_cons, h.stepReplies_eq]
  · rw [beepCount_cons, beepCount_cons, h.beepCount_eq]
  · rw [attempted_cons, attempted_cons, h.attempted_eq]

theorem attempted?_tick (m : Machine) :
    (Moment.mk (m.perform .tick).1 .step).attempted? = (Moment.mk m .step).attempted? :=
  State.instruction?_congr rfl rfl

theorem SameCourse.swap (h : m.Commute .step .tick) (rest : List HostRequest) :
    m.SameCourse (.step :: .tick :: rest) (.tick :: .step :: rest) := by
  constructor
  · exact congrArg (fun n => (performAll n rest).1) h.machine_eq
  · simp only [stepReplies_cons, h.machine_eq, ← h.reply_eq]
    rfl
  · simp only [beepCount_cons, h.machine_eq, ← h.reply_eq, h.reply_eq']
    omega
  · simp only [attempted_cons, h.machine_eq, attempted?_tick]
    rfl

/-- Steps and ticks come to the same in every order if no step finds an instruction that uses a
timer. -/
theorem sameCourse_of_perm {first second : List HostRequest} (hperm : first.Perm second)
    (hkinds : ∀ r ∈ first, r = .step ∨ r = .tick)
    (hfree : ∀ i ∈ m.attempted first, i.usesTimers = false) : m.SameCourse first second := by
  induction hperm generalizing m with
  | nil => exact .refl m []
  | cons r _ ih =>
    rw [attempted_cons] at hfree
    exact (ih (fun r' hr' => hkinds r' (List.mem_cons_of_mem _ hr')) fun i hi =>
      hfree i (List.mem_append_right _ hi)).cons
  | swap r r' rest =>
    rw [attempted_cons, attempted_cons] at hfree
    -- In either order the step finds the instruction that is next before both.
    have commute (hmem : ∀ i, m.state.instruction? = some i → i.usesTimers = false) :=
      SameCourse.swap (commute_step_tick hmem) rest
    rcases hkinds r' (by simp) with rfl | rfl <;> rcases hkinds r (by simp) with rfl | rfl
    · exact .refl m _
    · exact commute fun i hi => hfree i (List.mem_append_left _ (Option.mem_toList.2 hi))
    · refine (commute fun i hi =>
        hfree i (List.mem_append_right _ (List.mem_append_left _ ?_))).symm
      exact Option.mem_toList.2 ((attempted?_tick m).trans hi)
    · exact .refl m _
  | trans hfirst _ ih ih' =>
    have once := ih hkinds hfree
    rw [once.attempted_eq] at hfree
    exact once.trans (ih' (fun r hr => hkinds r (hfirst.mem_iff.2 hr)) hfree)

end ChipEight.Machine
