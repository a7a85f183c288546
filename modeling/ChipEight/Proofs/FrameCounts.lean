import ChipEight.Machine

/-!
# Counting steps and frames

A frame is a number of steps and a tick. The machine behind so many frames and steps, the beeps and
the screens on the way and the place of the first step that fails are functions of the machine that
the count starts from. No host and no display has a part in them.
-/

namespace ChipEight.Machine

def afterSteps (m : Machine) : Nat → Option Machine
  | 0 => some m
  | n + 1 =>
    match m.step with
    | .ok next => next.afterSteps n
    | .error _ => none

/-- The machine behind a number of frames of `k` steps and a tick, if all steps succeed. -/
def afterFrames (m : Machine) (k : Nat) : Nat → Option Machine
  | 0 => some m
  | n + 1 => (m.afterSteps k).bind fun ended => ended.tick.afterFrames k n

/-- Whether the tick of frame number `f` takes the sound timer from one to zero. -/
def beepsAt (m : Machine) (k f : Nat) : Bool :=
  ((m.afterFrames k f).bind fun begun => begun.afterSteps k).any fun ended =>
    ended.state.timers.sound == 1 && ended.tick.state.timers.sound == 0

/-- The number of beeps in the first `n` frames. -/
def beepsIn (m : Machine) (k n : Nat) : Nat := (List.range n).countP (m.beepsAt k)

/-- The screens at the ends of the first `n` frames. -/
def screensIn (m : Machine) (k n : Nat) : List Screen :=
  (List.range n).filterMap fun f => (m.afterFrames k (f + 1)).map (·.state.screen)

/-- Step number `j` of frame number `f` fails and no step before it does. -/
structure FailsAt (m : Machine) (k f j : Nat) (halted : Machine) (fault : Fault) : Prop where
  lt : j < k
  reached : ((m.afterFrames k f).bind fun begun => begun.afterSteps j) = some halted
  failed : halted.step = .error fault

variable {m ended halted : Machine} {fault : Fault} {k : Nat}

theorem afterFrames_succ (h : m.afterSteps k = some ended) (n : Nat) :
    m.afterFrames k (n + 1) = ended.tick.afterFrames k n := by
  rw [afterFrames, h, Option.bind_some]

theorem beeps_eq (m : Machine) :
    m.beeps = (m.state.timers.sound == 1 && m.tick.state.timers.sound == 0) := by
  by_cases hsound : m.state.timers.sound = 1
  · simp [beeps, Timers.beeps, tick, Timers.tick, Timers.countDown, hsound]
  · simp [beeps, Timers.beeps, hsound]

theorem beepsAt_zero (h : m.afterSteps k = some ended) : m.beepsAt k 0 = ended.beeps := by
  rw [beepsAt, afterFrames, Option.bind_some, h, Option.any_some, beeps_eq]

theorem beepsAt_succ (h : m.afterSteps k = some ended) (f : Nat) :
    m.beepsAt k (f + 1) = ended.tick.beepsAt k f := by
  rw [beepsAt, afterFrames_succ h, beepsAt]

theorem beepsIn_succ (h : m.afterSteps k = some ended) (n : Nat) :
    m.beepsIn k (n + 1) = (if ended.beeps then 1 else 0) + ended.tick.beepsIn k n := by
  have later : m.beepsAt k ∘ Nat.succ = ended.tick.beepsAt k := funext fun f => beepsAt_succ h f
  rw [beepsIn, List.range_succ_eq_map, List.countP_cons, List.countP_map, beepsAt_zero h, later,
    Nat.add_comm, beepsIn]

theorem failsAt_zero_iff {j : Nat} :
    m.FailsAt k 0 j halted fault ↔
      j < k ∧ m.afterSteps j = some halted ∧ halted.step = .error fault :=
  ⟨fun h => ⟨h.lt, h.reached, h.failed⟩, fun h => ⟨h.1, h.2.1, h.2.2⟩⟩

theorem FailsAt.tail {f j : Nat} (h : m.FailsAt k (f + 1) j halted fault) :
    ∃ ended, m.afterSteps k = some ended ∧ ended.tick.FailsAt k f j halted fault := by
  obtain ⟨begun, hbegun, _⟩ := Option.bind_eq_some_iff.1 h.reached
  obtain ⟨ended, hended, _⟩ := Option.bind_eq_some_iff.1 hbegun
  refine ⟨ended, hended, h.lt, ?_, h.failed⟩
  rw [← afterFrames_succ hended]
  exact h.reached

theorem FailsAt.cons {f j : Nat} (hended : m.afterSteps k = some ended)
    (h : ended.tick.FailsAt k f j halted fault) : m.FailsAt k (f + 1) j halted fault := by
  refine ⟨h.lt, ?_, h.failed⟩
  rw [afterFrames_succ hended]
  exact h.reached

private theorem afterSteps_of_fails {n j : Nat} (hreached : m.afterSteps j = some halted)
    (hfault : halted.step = .error fault) (hj : j < n) : m.afterSteps n = none := by
  obtain ⟨n, rfl⟩ := Nat.exists_eq_add_one_of_ne_zero (show n ≠ 0 by omega)
  induction j generalizing m n with
  | zero =>
    cases hreached
    rw [afterSteps, hfault]
  | succ j ih =>
    rw [afterSteps] at hreached ⊢
    cases hstep : m.step with
    | error _ => rfl
    | ok next =>
      rw [hstep] at hreached
      obtain ⟨n, rfl⟩ := Nat.exists_eq_add_one_of_ne_zero (show n ≠ 0 by omega)
      exact ih hreached n (by omega)

theorem FailsAt.afterSteps_eq_none {j : Nat} (h : m.FailsAt k 0 j halted fault) :
    m.afterSteps k = none :=
  afterSteps_of_fails h.reached h.failed h.lt

theorem FailsAt.unique {halted' : Machine} {fault' : Fault} {j j' : Nat}
    (h : m.FailsAt k 0 j halted fault) (h' : m.FailsAt k 0 j' halted' fault') :
    halted = halted' ∧ fault = fault' := by
  obtain ⟨-, hreached, hfault⟩ := failsAt_zero_iff.1 h
  obtain ⟨-, hreached', hfault'⟩ := failsAt_zero_iff.1 h'
  rcases Nat.lt_trichotomy j j' with hj | rfl | hj
  · cases hreached'.symm.trans (afterSteps_of_fails hreached hfault hj)
  · cases hreached.symm.trans hreached'
    cases hfault.symm.trans hfault'
    exact ⟨rfl, rfl⟩
  · cases hreached.symm.trans (afterSteps_of_fails hreached' hfault' hj)

theorem afterSteps_or_fails (m : Machine) (n : Nat) :
    (∃ ended, m.afterSteps n = some ended) ∨
      ∃ j halted fault, j < n ∧ m.afterSteps j = some halted ∧ halted.step = .error fault := by
  induction n generalizing m with
  | zero => exact .inl ⟨m, rfl⟩
  | succ n ih =>
    cases hstep : m.step with
    | error fault => exact .inr ⟨0, m, fault, Nat.succ_pos n, rfl, hstep⟩
    | ok next =>
      have hnext (i : Nat) : m.afterSteps (i + 1) = next.afterSteps i := by rw [afterSteps, hstep]
      rcases ih next with ⟨ended, hended⟩ | ⟨j, halted, fault, hj, hhalted, hfault⟩
      · exact .inl ⟨ended, (hnext n).trans hended⟩
      · exact .inr ⟨j + 1, halted, fault, by omega, (hnext j).trans hhalted, hfault⟩

theorem afterFrames_or_failsAt (m : Machine) (k n : Nat) :
    (∃ last, m.afterFrames k n = some last) ∨
      ∃ f j halted fault, f < n ∧ m.FailsAt k f j halted fault := by
  induction n generalizing m with
  | zero => exact .inl ⟨m, rfl⟩
  | succ n ih =>
    rcases m.afterSteps_or_fails k with ⟨ended, hended⟩ | ⟨j, halted, fault, hfails⟩
    · rcases ih ended.tick with ⟨last, hlast⟩ | ⟨f, j, halted, fault, hf, hfails⟩
      · exact .inl ⟨last, (afterFrames_succ hended n).trans hlast⟩
      · exact .inr ⟨f + 1, j, halted, fault, by omega, hfails.cons hended⟩
    · exact .inr ⟨0, j, halted, fault, Nat.succ_pos n, failsAt_zero_iff.2 hfails⟩

end ChipEight.Machine
