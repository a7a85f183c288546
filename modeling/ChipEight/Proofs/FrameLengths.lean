import ChipEight.Proofs.FrameByFrameRuns
import ChipEight.Proofs.InterleavedRequests

/-!
# Lengths of frames

While the timers are stopped and no instruction uses them a tick does nothing at all. How the steps
of a run are divided into frames then does not matter: the machine behind a run without an error
depends on the steps of a frame and on the number of frames only through their product.
-/

namespace ChipEight

namespace Machine

/-- The requests of `n` frames of `k` steps and a tick. -/
def frameRequests (k n : Nat) : List HostRequest :=
  (List.replicate n (List.replicate k .step ++ [.tick])).flatten

def stepsSucceed (m : Machine) (requests : List HostRequest) : Bool :=
  (m.stepReplies requests).all (·.fault.isNone)

variable {m : Machine}

private theorem tick_of_stopped (h : m.state.timers = .stopped) : m.tick = m := by
  have htick : m.state.timers.tick = m.state.timers := by
    rw [h]
    rfl
  rw [tick, htick]

theorem SameCourse.of_tick (h : m.state.timers = .stopped) (rest : List HostRequest) :
    m.SameCourse (.tick :: rest) rest := by
  have hperform : m.perform .tick = (m, .done) := by
    rw [perform, tick_of_stopped h, beeps, h]
    rfl
  constructor
  · rw [performAll, hperform]
  · rw [stepReplies_cons, hperform]
    rfl
  · rw [beepCount_cons, hperform]
    exact Nat.zero_add _
  · rw [attempted_cons, hperform]
    rfl

theorem timers_perform_step (h : ∀ i, m.state.instruction? = some i → i.usesTimers = false) :
    (m.perform .step).1.state.timers = m.state.timers := by
  cases hexecuted : (Moment.mk m .step).executed? with
  | some i =>
    rw [perform_of_executed hexecuted]
    exact timers_carryOut (h i (executed?_eq_some_iff.1 hexecuted).2.2)
  | none =>
    obtain ⟨memory, keypad, hnext⟩ := perform_of_not_executed (by simp) hexecuted
    rw [hnext]
    rfl

theorem sameCourse_steps (hstopped : m.state.timers = .stopped) {requests : List HostRequest}
    (hkinds : ∀ r ∈ requests, r = .step ∨ r = .tick)
    (hfree : ∀ i ∈ m.attempted (requests.filter HostRequest.isStep), i.usesTimers = false) :
    m.SameCourse requests (requests.filter HostRequest.isStep) := by
  induction requests generalizing m with
  | nil => exact .refl m []
  | cons r rest ih =>
    have hrest : ∀ r' ∈ rest, r' = .step ∨ r' = .tick :=
      fun r' hr' => hkinds r' (List.mem_cons_of_mem _ hr')
    rcases hkinds r List.mem_cons_self with rfl | rfl
    · rw [List.filter_cons_of_pos rfl] at hfree ⊢
      rw [attempted_cons] at hfree
      have still := timers_perform_step fun i hi =>
        hfree i (List.mem_append_left _ (Option.mem_toList.2 hi))
      exact (ih (still.trans hstopped) hrest fun i hi => hfree i (List.mem_append_right _ hi)).cons
    · rw [List.filter_cons_of_neg (by decide)] at hfree ⊢
      exact (SameCourse.of_tick hstopped rest).trans (ih hstopped hrest hfree)

theorem frameRequests_succ (k n : Nat) :
    frameRequests k (n + 1) = List.replicate k .step ++ .tick :: frameRequests k n := by
  rw [frameRequests, List.replicate_succ, List.flatten_cons, List.append_assoc]
  rfl

private theorem frameRequests_kinds (k n : Nat) :
    ∀ r ∈ frameRequests k n, r = .step ∨ r = .tick := by
  intro r hr
  obtain ⟨frame, hframe, hr⟩ := List.mem_flatten.1 hr
  rw [List.eq_of_mem_replicate hframe, List.mem_append, List.mem_singleton] at hr
  exact hr.imp_left List.eq_of_mem_replicate

theorem filter_frameRequests (k n : Nat) :
    (frameRequests k n).filter HostRequest.isStep = List.replicate (k * n) .step := by
  induction n with
  | zero => rfl
  | succ n ih =>
    have hsteps : (List.replicate k HostRequest.step).filter HostRequest.isStep =
        List.replicate k .step := by
      rw [List.filter_replicate, if_pos (show HostRequest.step.isStep = true from rfl)]
    rw [frameRequests_succ, List.filter_append, hsteps, List.filter_cons_of_neg (by decide), ih,
      List.replicate_append_replicate, Nat.mul_succ, Nat.add_comm]

private theorem stepReplies_append (m : Machine) (before after : List HostRequest) :
    m.stepReplies (before ++ after) =
      m.stepReplies before ++ (m.performAll before).1.stepReplies after := by
  induction before generalizing m with
  | nil => rfl
  | cons r rest ih => rw [List.cons_append, stepReplies_cons, stepReplies_cons, ih, performAll,
      List.append_assoc]

theorem afterSteps_eq (m : Machine) (n : Nat) :
    m.afterSteps n =
      if m.stepsSucceed (List.replicate n .step) then
        some (m.performAll (List.replicate n .step)).1 else none := by
  induction n generalizing m with
  | zero => rfl
  | succ n ih =>
    rw [afterSteps, List.replicate_succ, stepsSucceed, stepReplies_cons, performAll, perform]
    cases m.step with
    | ok next => exact ih next
    | error fault => rfl

theorem afterFrames_eq (m : Machine) (k n : Nat) :
    m.afterFrames k n =
      if m.stepsSucceed (frameRequests k n) then
        some (m.performAll (frameRequests k n)).1 else none := by
  induction n generalizing m with
  | zero => rfl
  | succ n ih =>
    rw [afterFrames, afterSteps_eq, frameRequests_succ, stepsSucceed, stepsSucceed,
      stepReplies_append, List.all_append, performAll_append, stepReplies_cons]
    by_cases hsteps : (m.stepReplies (List.replicate k .step)).all (·.fault.isNone) = true
    · rw [if_pos hsteps, hsteps]
      exact ih _
    · rw [if_neg hsteps, Bool.eq_false_iff.2 hsteps]
      rfl

/-- How the steps of frames are divided does not matter to a machine whose timers are stopped, if no
step finds an instruction that uses a timer. -/
theorem afterFrames_of_mul_eq {k n k' n' : Nat} (hstopped : m.state.timers = .stopped)
    (hfree : ∀ i ∈ m.attempted (frameRequests k n), i.usesTimers = false)
    (hmul : k' * n' = k * n) : m.afterFrames k' n' = m.afterFrames k n := by
  -- The steps come first in some order of the requests, so they find what is found in the frames.
  have hsteps : ∀ i ∈ m.attempted (List.replicate (k * n) .step), i.usesTimers = false := by
    have sorted := (List.filter_append_perm HostRequest.isStep (frameRequests k n)).symm
    have same := (sameCourse_of_perm sorted (frameRequests_kinds k n) hfree).attempted_eq
    rw [filter_frameRequests, attempted_append] at same
    intro i hi
    exact hfree i (same ▸ List.mem_append_left _ hi)
  have divided (k' n' : Nat) (hmul : k' * n' = k * n) :
      m.SameCourse (frameRequests k' n') (List.replicate (k * n) .step) := by
    have hfilter : (frameRequests k' n').filter HostRequest.isStep =
        List.replicate (k * n) .step := by
      rw [filter_frameRequests, hmul]
    rw [← hfilter]
    rw [← hfilter] at hsteps
    exact sameCourse_steps hstopped (frameRequests_kinds k' n') hsteps
  have same := (divided k' n' hmul).trans (divided k n rfl).symm
  rw [afterFrames_eq, afterFrames_eq, stepsSucceed, stepsSucceed, same.stepReplies_eq,
    same.machine_eq]

end Machine

namespace Session

variable {last : Session} {settings : Settings}

private theorem afterFrames_of_run {m : Machine} {display : Display} {journal : Journal}
    (h : (start m display journal).run settings = (last, none)) :
    (∀ key ∈ settings.heldKeys, key.toNat < 16) ∧
      (m.holding settings.heldKeys).afterFrames settings.stepsPerTick settings.frames =
        some last.machine := by
  have hkeys : ∀ key ∈ settings.heldKeys, key.toNat < 16 := by
    rw [run] at h
    split at h
    · cases h
    · rename_i hpress
      exact lt_of_pressAll hpress
  obtain ⟨frames, ended, fault, hends⟩ :=
    (m.holding settings.heldKeys).exists_endsAt settings.stepsPerTick settings.frames
  have hfollows := run_follows display journal hkeys hends
  rw [h] at hfollows
  rcases hfollows.ends with ⟨hresult, hat⟩ | ⟨cause, hcause⟩
  · cases fault with
    | none =>
      rw [hat.machine_eq]
      exact ⟨hkeys, hends.2⟩
    | some cause => cases hresult
  · cases hcause

theorem run_ok {m worked : Machine} {display : Display} (hdisplay : display.Reliable)
    (journal : Journal) (hkeys : ∀ key ∈ settings.heldKeys, key.toNat < 16)
    (h : (m.holding settings.heldKeys).afterFrames settings.stepsPerTick settings.frames =
      some worked) : ∃ last, (start m display journal).run settings = (last, none) := by
  have hends : (m.holding settings.heldKeys).EndsAt settings.stepsPerTick settings.frames
      settings.frames worked none := ⟨rfl, h⟩
  obtain ⟨last, hrun, -⟩ := run_reliable hdisplay journal hkeys hends
  exact ⟨last, hrun⟩

end Session

/-- Independent requests can be made in any order. Steps and ticks can be put in any order if no
step of one of the orders finds an instruction that uses a timer, and a key event commutes with
everything but events of the same key and steps that ask for a key. So the machine behind a run that
starts with both timers stopped, finds no instruction that uses them and ends without a failure
depends on the steps of a frame and the number of frames only through their product. -/
theorem interleavings_agree (m : Machine) :
    (∀ first second : List HostRequest, first.Perm second →
      (∀ r ∈ first, r = .step ∨ r = .tick) →
      (∀ i ∈ m.attempted first, i.usesTimers = false) →
        (m.performAll first).1 = (m.performAll second).1 ∧
        m.stepReplies first = m.stepReplies second ∧
        m.beepCount first = m.beepCount second) ∧
    (∀ key down,
      m.Commute (.press key down) .tick ∧
      (∀ other otherDown, other ≠ key →
        m.Commute (.press key down) (.press other otherDown)) ∧
      ((∀ i, m.state.instruction? = some i → i.readsKeypad = false) →
        m.Commute (.press key down) .step)) ∧
    (∀ settings settings' : Settings, settings'.heldKeys = settings.heldKeys →
      settings'.stepsPerTick * settings'.frames = settings.stepsPerTick * settings.frames →
      ∀ display journal s, (Session.start m display journal).run settings = (s, none) →
      m.state.timers = .stopped →
      (∀ i ∈ (m.holding settings.heldKeys).attempted
          (Machine.frameRequests settings.stepsPerTick settings.frames), i.usesTimers = false) →
      ∀ display' journal', let run' := (Session.start m display' journal').run settings'
        (∀ s', run' = (s', none) → s'.machine = s.machine) ∧
        (display'.Reliable → ∃ s', run' = (s', none))) := by
  refine ⟨?_, ?_, ?_⟩
  · intro first second hperm hkinds hfree
    have same := Machine.sameCourse_of_perm hperm hkinds hfree
    exact ⟨same.machine_eq, same.stepReplies_eq, same.beepCount_eq⟩
  · intro key down
    exact ⟨m.commute_press_tick key down,
      fun _ otherDown hother => m.commute_press_press hother down otherDown,
      Machine.commute_press_step key down⟩
  · intro settings settings' hheld hmul display journal s hrun hstopped hfree display' journal' run'
    obtain ⟨hkeys, hframes⟩ := Session.afterFrames_of_run hrun
    have same :=
      Machine.afterFrames_of_mul_eq (m := m.holding settings.heldKeys) hstopped hfree hmul
    rw [← same, ← hheld] at hframes
    refine ⟨?_, ?_⟩
    · intro s' hrun'
      exact Option.some.inj ((Session.afterFrames_of_run hrun').2.symm.trans hframes)
    · intro hdisplay
      exact Session.run_ok hdisplay journal' (hheld ▸ hkeys) hframes

/-- A program that counts in a loop: a tick and an event of a key can be moved past its steps, and
three frames of two steps count as far as two frames of three. -/
theorem interleavings_agree_counting :
    let counting := ((Machine.initial (.ofList [])).performAll [.load [0x70, 0x01, 0x12, 0x00]]).1
    let display := Display.initial true .reliable
    let settings (k n : Nat) : Settings := ⟨k, n, [0x0A], .everyFrame, false, false⟩
    let run (k n : Nat) := (Session.start counting display (.empty none)).run (settings k n)
    (counting.performAll [.step, .tick, .step]).1 = (counting.performAll [.step, .step, .tick]).1 ∧
    counting.Commute (.press 0x05 true) .step ∧
    counting.Commute (.press 0x05 true) (.press 0x10 true) ∧
    ∃ s s', run 2 3 = (s, none) ∧ run 3 2 = (s', none) ∧ s'.machine = s.machine := by
  intro counting display settings run
  obtain ⟨ordered, pressed, divided⟩ := interleavings_agree counting
  have reliable : display.Reliable := ⟨rfl, rfl⟩
  have free : (counting.attempted [.step, .tick, .step]).all (!·.usesTimers) ∧
      counting.state.instruction? = some (.addByte 0 1) ∧
      ((counting.holding [0x0A]).attempted (Machine.frameRequests 2 3)).all (!·.usesTimers) ∧
      ((counting.holding [0x0A]).afterFrames 2 3).isSome := by decide +kernel
  obtain ⟨freeSteps, next, freeFrames, worked⟩ := free
  refine ⟨?_, ?_, ?_, ?_⟩
  · exact (ordered [.step, .tick, .step] [.step, .step, .tick] (.cons _ (.swap _ _ _)) (by simp)
      (by simpa using freeSteps)).1
  · exact (pressed 0x05 true).2.2 (by simp [next, Instruction.readsKeypad])
  · exact (pressed 0x05 true).2.1 0x10 true (by decide)
  · obtain ⟨last, hlast⟩ := Option.isSome_iff_exists.1 worked
    obtain ⟨s, hrun⟩ : ∃ s, run 2 3 = (s, none) :=
      Session.run_ok reliable (.empty none) (by simp [settings]) hlast
    obtain ⟨same, ends⟩ :=
      divided (settings 2 3) (settings 3 2) rfl rfl display (.empty none) s hrun
      rfl (by simpa using freeFrames) display (.empty none)
    obtain ⟨s', hrun'⟩ := ends reliable
    exact ⟨s, s', hrun, hrun', same s' hrun'⟩

end ChipEight
