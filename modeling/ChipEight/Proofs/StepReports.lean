import ChipEight.Proofs.FrameCounts
import ChipEight.Proofs.StepOutcomes
import ChipEight.HostRun

/-!
# Reports of steps

The parts that a run is made of, each as one equation on the session: steps, a tick, a frame, the
end at a fault and the end behind the last frame. A part changes the journal by the events of its
steps, of its beep and of what stopped it, whatever the display is, and the display by a drawing at
most.
-/

namespace ChipEight

namespace Machine

/-- The report of a fetch, with the word at the program counter. -/
def fetchEvent (m : Machine) : Event :=
  .fetched (m.state.memory.word m.state.pc.toNat) m.state.registers m.state.index m.state.pc

/-- What a step reports that fails. -/
def haltEvents (m : Machine) (fault : Fault) : List Event :=
  if m.state.pc.toNat + 2 ≤ 4096 then [m.fetchEvent, .halted m.state.pc fault] else []

/-- What the first `n` steps report that succeed. -/
def stepsEvents (m : Machine) (n : Nat) : List Event :=
  (List.range n).filterMap fun j => (m.afterSteps j).map fetchEvent

variable {m next : Machine}

private theorem stepEvents_ok (h : m.step = .ok next) :
    m.stepEvents (.ok next) = [m.fetchEvent] := by
  rw [stepEvents, State.fetch_eq, if_pos (step_eq_ok_iff.1 h).1]
  rfl

private theorem stepEvents_error (m : Machine) (fault : Fault) :
    m.stepEvents (.error fault) = m.haltEvents fault := by
  rw [stepEvents, State.fetch_eq, haltEvents]
  by_cases hfits : m.state.pc.toNat + 2 ≤ 4096
  · rw [if_pos hfits, if_pos hfits]
    rfl
  · rw [if_neg hfits, if_neg hfits]

private theorem stepsEvents_succ (h : m.step = .ok next) (n : Nat) :
    m.stepsEvents (n + 1) = [m.fetchEvent] ++ next.stepsEvents n := by
  rw [stepsEvents, List.range_succ_eq_map, List.filterMap_cons, List.filterMap_map]
  simp only [afterSteps, h, Function.comp_def]
  rfl

end Machine

/-- What becomes of a display behind a frame. -/
def Drawing.renderFrame (drawing : Drawing) (d : Display) (screen : Screen) :
    Display × Option SinkFailure :=
  if drawing = .everyFrame then d.render screen else (d, none)

namespace Journal

theorem record_nil (j : Journal) : j.record [] = j := by
  exact congrArg (Journal.mk j.threshold) (Array.toList_inj.1 (by simp))

theorem record_record (j : Journal) (first second : List Event) :
    (j.record first).record second = j.record (first ++ second) := by
  have hentries : j.entries ++ first.filter j.keeps ++ second.filter j.keeps =
      j.entries ++ (first ++ second).filter j.keeps := by
    apply Array.toList_inj.1
    simp
  exact congrArg (Journal.mk j.threshold) hentries

end Journal

namespace Session

/-- The session behind a frame whose steps lead to a machine. -/
def behind (s : Session) (settings : Settings) (ended : Machine) (display : Display) : Session :=
  { s.note (s.machine.stepsEvents settings.stepsPerTick ++
      if ended.beeps then [.beep s.frames] else []) with
    machine := ended.tick
    display
    frames := s.frames + 1
    beeps := s.beeps + if ended.beeps then 1 else 0 }

/-- The session at a step that fails, behind `j` steps of its frame. -/
def haltedAt (s : Session) (j : Nat) (halted : Machine) (fault : Fault) : Session :=
  { s.note (s.machine.stepsEvents j ++ halted.haltEvents fault) with machine := halted }

variable {s : Session} {settings : Settings} {ended halted : Machine} {fault : Fault}

private theorem note_nil (s : Session) : s.note [] = s := by
  rw [note, Journal.record_nil]

private theorem note_note (s : Session) (first second : List Event) :
    (s.note first).note second = s.note (first ++ second) := by
  rw [note, note, Journal.record_record, note]

private theorem steps_succ (h : s.machine.step = .ok ended) (n : Nat) :
    s.steps (n + 1) = steps { s.note [s.machine.fetchEvent] with machine := ended } n := by
  rw [steps, h, Machine.stepEvents_ok h]

theorem steps_of_afterSteps {n : Nat} (h : s.machine.afterSteps n = some ended) :
    s.steps n = ({ s.note (s.machine.stepsEvents n) with machine := ended }, none) := by
  induction n generalizing s with
  | zero =>
    cases h
    exact Prod.ext s.note_nil.symm rfl
  | succ n ih =>
    rw [Machine.afterSteps] at h
    cases hstep : s.machine.step with
    | error _ => simp [hstep] at h
    | ok stepped =>
      rw [hstep] at h
      rw [steps_succ hstep, ih h, Machine.stepsEvents_succ hstep, ← s.note_note]
      rfl

private theorem steps_of_fails {n j : Nat} (hreached : s.machine.afterSteps j = some halted)
    (hfault : halted.step = .error fault) (hj : j < n) :
    s.steps n = (s.haltedAt j halted fault, some fault) := by
  obtain ⟨n, rfl⟩ := Nat.exists_eq_add_one_of_ne_zero (show n ≠ 0 by omega)
  induction j generalizing s n with
  | zero =>
    cases hreached
    rw [steps, hfault, Machine.stepEvents_error]
    rfl
  | succ j ih =>
    rw [Machine.afterSteps] at hreached
    cases hstep : s.machine.step with
    | error _ => simp [hstep] at hreached
    | ok stepped =>
      obtain ⟨n, rfl⟩ := Nat.exists_eq_add_one_of_ne_zero (show n ≠ 0 by omega)
      rw [hstep] at hreached
      rw [steps_succ hstep, ih hreached n (by omega), haltedAt, haltedAt,
        Machine.stepsEvents_succ hstep, List.append_assoc, ← s.note_note]
      rfl

theorem tick_eq (s : Session) :
    s.tick =
      { s.note (if s.machine.beeps then [.beep s.frames] else []) with
        machine := s.machine.tick
        frames := s.frames + 1
        beeps := s.beeps + if s.machine.beeps then 1 else 0 } := by
  rw [tick]
  by_cases hbeeps : s.machine.beeps
  · rw [if_pos hbeeps, if_pos hbeeps, if_pos hbeeps]
    rfl
  · rw [if_neg hbeeps, if_neg hbeeps, if_neg hbeeps, note_nil]
    rfl

theorem frame_of_afterSteps (h : s.machine.afterSteps settings.stepsPerTick = some ended) :
    s.frame settings =
      let shown := settings.drawing.renderFrame s.display ended.tick.state.screen
      (s.behind settings ended shown.1, shown.2.map .drawing) := by
  rw [frame, steps_of_afterSteps h]
  dsimp only [behind]
  rw [Drawing.renderFrame, ← s.note_note, tick_eq]
  split <;> rfl

theorem frame_of_failsAt {j : Nat} (h : s.machine.FailsAt settings.stepsPerTick 0 j halted fault) :
    s.frame settings = (s.haltedAt j halted fault).stop settings.drawing fault := by
  obtain ⟨hj, hreached, hfault⟩ := Machine.failsAt_zero_iff.1 h
  rw [frame, steps_of_fails hreached hfault hj]

private theorem exists_draw (s : Session) :
    ∃ display failure, s.draw = ({ s with display }, failure) ∧
      (failure = none ∨ ∃ cause, failure = some (.drawing cause)) := by
  rw [draw]
  cases s.display.render s.machine.state.screen with
  | mk display failure =>
    cases failure with
    | none => exact ⟨_, _, rfl, .inl rfl⟩
    | some cause => exact ⟨_, _, rfl, .inr ⟨cause, rfl⟩⟩

/-- An end at a fault is reported, and is a failure whether the drawing behind it fails or not. -/
theorem exists_stop (s : Session) (drawing : Drawing) (fault : Fault) :
    ∃ display failure, s.stop drawing fault =
        ({ s.note [.stopped s.frames fault] with display }, some failure) ∧
      (failure = .fault fault ∨ ∃ cause, failure = .drawing cause) := by
  rw [stop]
  split
  · exact ⟨_, _, rfl, .inl rfl⟩
  · obtain ⟨display, failure, hdraw, rfl | ⟨cause, rfl⟩⟩ :=
      (s.note [.stopped s.frames fault]).exists_draw
    · rw [hdraw]
      exact ⟨_, _, rfl, .inl rfl⟩
    · rw [hdraw]
      exact ⟨_, _, rfl, .inr ⟨cause, rfl⟩⟩

theorem exists_finish (s : Session) (settings : Settings) :
    ∃ display failure, s.finish settings = ({ s with display }, failure) ∧
      (failure = none ∨ ∃ cause, failure = some (.drawing cause)) := by
  rw [finish]
  split
  · exact s.exists_draw
  · exact ⟨_, _, rfl, .inl rfl⟩

end Session
end ChipEight
