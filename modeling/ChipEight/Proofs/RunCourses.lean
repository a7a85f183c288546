import ChipEight.Proofs.DrawnBytes
import ChipEight.Proofs.StepReports

/-!
# Courses of runs

A run presses the held keys and works through its frames. The next frame stops at a step that fails,
or it is drawn in vain, or the frames behind it go on from there; this is all that the loop of a run
can do, and what holds of whole runs is proved along it. The steps and ticks do not depend on the
display, so which machines a run draws, and in which order, is known before any of them is drawn. A
run on any display is those drawings up to the first that fails: if none does, it ends where its
frames end, and otherwise it ends with the machine whose drawing failed.
-/

namespace ChipEight

/-- The keypad with some keys pressed in addition. -/
def Keypad.holding (p : Keypad) (keys : List UInt8) : Keypad :=
  ⟨p.pressed.mapIdx fun k down => down || keys.contains (UInt8.ofNat k)⟩

/-- The machine with some keys pressed in addition. -/
def Machine.holding (m : Machine) (keys : List UInt8) : Machine :=
  { m with keypad := m.keypad.holding keys }

namespace Machine

/-- The machines behind the first `n` frames. -/
def machinesIn (m : Machine) (k n : Nat) : List Machine :=
  (List.range n).filterMap fun f => m.afterFrames k (f + 1)

/-- Where `n` frames of `k` steps end: behind the last of them, or at a step that fails. -/
def EndsAt (m : Machine) (k n frames : Nat) (last : Machine) : Option Fault → Prop
  | none => frames = n ∧ m.afterFrames k n = some last
  | some fault => frames < n ∧ ∃ j, m.FailsAt k frames j last fault

end Machine

/-- The machines that a run draws, given those behind its frames, the last one, and whether a fault
stopped it there. -/
def Drawing.drawn (drawing : Drawing) (ends : List Machine) (last : Machine) (stopped : Bool) :
    List Machine :=
  match drawing with
  | .never => []
  | .atEnd => [last]
  | .everyFrame => if stopped then ends ++ [last] else ends

/-- Draws machines in order up to the first failure, which comes with the machine that it left
undrawn. -/
def Display.renderAll (d : Display) : List Machine → Display × Option (Machine × SinkFailure)
  | [] => (d, none)
  | m :: rest =>
    match d.render m.state.screen with
    | (next, none) => next.renderAll rest
    | (next, some failure) => (next, some (m, failure))

/-- Where a run is: everything that it changes but the journal. -/
structure Session.At (s : Session) (machine : Machine) (display : Display) (frames beeps : Nat) :
    Prop where
  machine_eq : s.machine = machine
  display_eq : s.display = display
  frames_eq : s.frames = frames
  beeps_eq : s.beeps = beeps

/-- A part of a run ends with a fault or without one, at a place of which the display is known, or
it ends at the machine whose drawing failed. -/
def Session.Follows (outcome : Session × Option RunFailure)
    (shown : Display × Option (Machine × SinkFailure)) (last : Machine) (frames beeps : Nat)
    (fault : Option Fault) : Prop :=
  match shown with
  | (display, none) =>
    outcome.2 = fault.map .fault ∧ outcome.1.At last display frames beeps
  | (display, some (machine, failure)) =>
    outcome.2 = some (.drawing failure) ∧ outcome.1.machine = machine ∧
      outcome.1.display = display

/-- The frames of a run and what it does behind them. -/
def Session.work (s : Session) (settings : Settings) (n : Nat) : Session × Option RunFailure :=
  match s.runFrames settings n with
  | (last, none) => last.finish settings
  | (last, some failure) => (last, some failure)

/-- What becomes of a session with `n` frames to work through. -/
inductive Session.Works (settings : Settings) :
    Session → Nat → Session × Option RunFailure → Prop where
  | finished (s : Session) : Works settings s 0 (s.finish settings)
  | stopped {s : Session} {n j : Nat} {halted : Machine} {fault : Fault}
      (failed : s.machine.FailsAt settings.stepsPerTick 0 j halted fault) :
      Works settings s (n + 1) ((s.haltedAt j halted fault).stop settings.drawing fault)
  | undrawn {s : Session} {n : Nat} {ended : Machine} {display : Display} {cause : SinkFailure}
      (stepped : s.machine.afterSteps settings.stepsPerTick = some ended)
      (shown : settings.drawing.renderFrame s.display ended.tick.state.screen =
        (display, some cause)) :
      Works settings s (n + 1) (s.behind settings ended display, some (.drawing cause))
  | worked {s : Session} {n : Nat} {ended : Machine} {display : Display}
      {outcome : Session × Option RunFailure}
      (stepped : s.machine.afterSteps settings.stepsPerTick = some ended)
      (shown : settings.drawing.renderFrame s.display ended.tick.state.screen = (display, none))
      (rest : Works settings (s.behind settings ended display) n outcome) :
      Works settings s (n + 1) outcome

private theorem Drawing.drawn_cons (first : Machine) (ends : List Machine) (last : Machine)
    (stopped : Bool) :
    everyFrame.drawn (first :: ends) last stopped =
      first :: everyFrame.drawn ends last stopped := by
  cases stopped <;> rfl

namespace Machine

variable {m ended last : Machine} {k n frames : Nat} {fault : Option Fault}

theorem exists_endsAt (m : Machine) (k n : Nat) :
    ∃ frames last fault, m.EndsAt k n frames last fault := by
  rcases m.afterFrames_or_failsAt k n with ⟨last, hlast⟩ | ⟨f, j, halted, fault, hf, hfails⟩
  · exact ⟨n, last, none, rfl, hlast⟩
  · exact ⟨f, halted, some fault, hf, j, hfails⟩

theorem EndsAt.zero (h : m.EndsAt k 0 frames last fault) :
    frames = 0 ∧ last = m ∧ fault = none := by
  cases fault with
  | none =>
    obtain ⟨rfl, hlast⟩ := h
    cases hlast
    exact ⟨rfl, rfl, rfl⟩
  | some fault => exact absurd h.1 (Nat.not_lt_zero _)

private theorem EndsAt.succ (h : m.EndsAt k (n + 1) frames last fault) :
    (∃ j cause, frames = 0 ∧ fault = some cause ∧ m.FailsAt k 0 j last cause) ∨
    ∃ ended later, m.afterSteps k = some ended ∧ frames = later + 1 ∧
      ended.tick.EndsAt k n later last fault := by
  cases fault with
  | none =>
    obtain ⟨rfl, hlast⟩ := h
    obtain ⟨ended, hended, hrest⟩ := Option.bind_eq_some_iff.1 hlast
    exact .inr ⟨ended, n, hended, rfl, rfl, hrest⟩
  | some cause =>
    obtain ⟨hframes, j, hfails⟩ := h
    cases frames with
    | zero => exact .inl ⟨j, cause, rfl, rfl, hfails⟩
    | succ later =>
      obtain ⟨ended, hended, htail⟩ := hfails.tail
      exact .inr ⟨ended, later, hended, rfl, Nat.lt_of_succ_lt_succ hframes, j, htail⟩

private theorem EndsAt.of_failsAt {j : Nat} {halted : Machine} {cause : Fault}
    (h : m.EndsAt k (n + 1) frames last fault) (hfails : m.FailsAt k 0 j halted cause) :
    frames = 0 ∧ last = halted ∧ fault = some cause := by
  rcases h.succ with ⟨j', cause', rfl, rfl, hfails'⟩ | ⟨ended, later, hended, -⟩
  · obtain ⟨rfl, rfl⟩ := hfails.unique hfails'
    exact ⟨rfl, rfl, rfl⟩
  · cases hfails.afterSteps_eq_none.symm.trans hended

private theorem EndsAt.of_afterSteps (h : m.EndsAt k (n + 1) frames last fault)
    (hended : m.afterSteps k = some ended) :
    ∃ later, frames = later + 1 ∧ ended.tick.EndsAt k n later last fault := by
  rcases h.succ with ⟨j, cause, rfl, rfl, hfails⟩ | ⟨ended', later, hended', rfl, hlater⟩
  · cases hfails.afterSteps_eq_none.symm.trans hended
  · cases hended.symm.trans hended'
    exact ⟨later, rfl, hlater⟩

theorem machinesIn_succ (h : m.afterSteps k = some ended) (n : Nat) :
    m.machinesIn k (n + 1) = ended.tick :: ended.tick.machinesIn k n := by
  rw [machinesIn, List.range_succ_eq_map, List.filterMap_cons, List.filterMap_map]
  simp only [afterFrames_succ h, Function.comp_def, Nat.succ_eq_add_one]
  rfl

end Machine

/-- With room for all their bytes the drawings of machines are those of their screens. -/
theorem Display.renderAll_of_holds {d : Display} {machines : List Machine}
    (hflush : d.sink.flushFails = false)
    (h : Sink.Holds d.sink.room (framesBytes d.inPlace d.drawn (machines.map (·.state.screen)))) :
    d.renderAll machines = (d.drawAll (machines.map (·.state.screen)), none) := by
  induction machines generalizing d with
  | nil => rfl
  | cons m rest ih =>
    rw [List.map_cons, framesBytes, Sink.holds_append] at h
    rw [renderAll, List.map_cons, drawAll, List.foldl_cons, render_of_holds h.1]
    simp only [Sink.flush, hflush]
    exact ih hflush h.2

namespace Keypad

variable (p : Keypad)

private theorem holding_nil : p.holding [] = p := by
  apply Keypad.ext
  apply Vector.ext
  intro k hk
  simp [holding]

private theorem holding_cons (key : UInt8) (rest : List UInt8) :
    (p.holding [key]).holding rest = p.holding (key :: rest) := by
  apply Keypad.ext
  apply Vector.ext
  intro k hk
  simp [holding, Bool.or_assoc]

private theorem set_eq_holding {key : UInt8} (h : key.toNat < 16) :
    p.set key true = .ok (p.holding [key]) := by
  rw [set, dif_pos h]
  apply congrArg Except.ok
  apply Keypad.ext
  apply Vector.ext
  intro k (hk : k < 16)
  have hkey : UInt8.ofNat k = key ↔ key.toNat = k := by
    rw [← UInt8.toNat_inj, UInt8.toNat_ofNat_of_lt' (by simp only [UInt8.size]; omega), eq_comm]
  by_cases hpressed : key.toNat = k <;> simp [holding, hkey, hpressed]

end Keypad

namespace Session

variable {s : Session} {settings : Settings} {outcome : Session × Option RunFailure} {n : Nat}

theorem pressAll_append {before after : List UInt8} (h : ∀ key ∈ before, key.toNat < 16) :
    s.pressAll (before ++ after) =
      pressAll { s with machine := s.machine.holding before } after := by
  induction before generalizing s with
  | nil => simp only [List.nil_append, Machine.holding, Keypad.holding_nil]
  | cons key rest ih =>
    have hpress : s.machine.press key true = .ok (s.machine.holding [key]) := by
      rw [Machine.press, Keypad.set_eq_holding _ (h key List.mem_cons_self)]
      rfl
    rw [List.cons_append, pressAll, hpress]
    dsimp only
    rw [ih fun k hk => h k (List.mem_cons_of_mem _ hk)]
    simp only [Machine.holding, Keypad.holding_cons]

theorem pressAll_valid {keys : List UInt8} (h : ∀ key ∈ keys, key.toNat < 16) :
    s.pressAll keys = ({ s with machine := s.machine.holding keys }, none) := by
  have hkeys : s.pressAll (keys ++ []) = _ := pressAll_append h
  rwa [List.append_nil] at hkeys

theorem pressAll_invalid {key : UInt8} (h : 16 ≤ key.toNat) (rest : List UInt8) :
    s.pressAll (key :: rest) = (s, some (.invalidKey key)) := by
  have hpress : s.machine.press key true = .error (.invalidKey key) := by
    rw [Machine.press, Keypad.set, dif_neg (by omega)]
    rfl
  rw [pressAll, hpress]

theorem lt_of_pressAll {next : Session} {keys : List UInt8} (h : s.pressAll keys = (next, none)) :
    ∀ key ∈ keys, key.toNat < 16 := by
  induction keys generalizing s with
  | nil => simp
  | cons key rest ih =>
    by_cases hkey : key.toNat < 16
    · have hsplit : s.pressAll ([key] ++ rest) = _ := pressAll_append (by simpa using hkey)
      exact List.forall_mem_cons.2 ⟨hkey, ih (hsplit.symm.trans h)⟩
    · rw [pressAll_invalid (by omega)] at h
      cases h

theorem run_eq_work (s : Session) (hkeys : ∀ key ∈ settings.heldKeys, key.toNat < 16) :
    s.run settings =
      work { s with machine := s.machine.holding settings.heldKeys } settings settings.frames := by
  rw [run, pressAll_valid hkeys]
  rfl

private theorem work_succ (s : Session) (settings : Settings) (n : Nat) :
    s.work settings (n + 1) =
      match s.frame settings with
      | (next, none) => next.work settings n
      | (last, some failure) => (last, some failure) := by
  rw [work, runFrames]
  cases s.frame settings with
  | mk next failure => cases failure <;> rfl

/-- In each frame the loop of a run does one of the things that `Works` lists. -/
theorem works_work (s : Session) (settings : Settings) (n : Nat) :
    Works settings s n (s.work settings n) := by
  induction n generalizing s with
  | zero => exact .finished s
  | succ n ih =>
    rw [work_succ]
    rcases s.machine.afterSteps_or_fails settings.stepsPerTick with
      ⟨ended, hended⟩ | ⟨j, halted, fault, hfails⟩
    · rw [frame_of_afterSteps hended]
      cases hshown : settings.drawing.renderFrame s.display ended.tick.state.screen with
      | mk display failure =>
        cases failure with
        | none => exact .worked hended hshown (ih _)
        | some cause => exact .undrawn hended hshown
    · have hfails := Machine.failsAt_zero_iff.2 hfails
      rw [frame_of_failsAt hfails]
      obtain ⟨display, failure, hstop, -⟩ := (s.haltedAt j halted fault).exists_stop
        settings.drawing fault
      have hstopped : Works settings s (n + 1) _ := .stopped hfails
      rwa [hstop] at hstopped ⊢

private theorem draw_follows (s : Session) :
    Follows s.draw (s.display.renderAll [s.machine]) s.machine s.frames s.beeps none := by
  rw [draw, Display.renderAll]
  cases s.display.render s.machine.state.screen with
  | mk display failure =>
    cases failure with
    | none => exact ⟨rfl, rfl, rfl, rfl, rfl⟩
    | some failure => exact ⟨rfl, rfl, rfl⟩

private theorem stop_follows (s : Session) (drawing : Drawing) (fault : Fault) :
    Follows (s.stop drawing fault) (s.display.renderAll (drawing.drawn [] s.machine true))
      s.machine s.frames s.beeps (some fault) := by
  by_cases hnever : drawing = .never
  · subst hnever
    exact ⟨rfl, rfl, rfl, rfl, rfl⟩
  · have hdrawn : drawing.drawn [] s.machine true = [s.machine] := by
      cases drawing with
      | never => exact absurd rfl hnever
      | atEnd => rfl
      | everyFrame => rfl
    rw [stop, if_neg hnever, hdrawn, draw, Display.renderAll, note]
    cases s.display.render s.machine.state.screen with
    | mk display failure =>
      cases failure with
      | none => exact ⟨rfl, rfl, rfl, rfl, rfl⟩
      | some failure => exact ⟨rfl, rfl, rfl⟩

private theorem finish_follows (s : Session) (settings : Settings) :
    Follows (s.finish settings) (s.display.renderAll (settings.drawing.drawn [] s.machine false))
      s.machine s.frames s.beeps none := by
  rw [finish]
  cases settings.drawing with
  | atEnd => exact s.draw_follows
  | never => exact ⟨rfl, rfl, rfl, rfl, rfl⟩
  | everyFrame => exact ⟨rfl, rfl, rfl, rfl, rfl⟩

theorem Follows.ends {shown : Display × Option (Machine × SinkFailure)} {last : Machine}
    {frames beeps : Nat} {fault : Option Fault}
    (h : Follows outcome shown last frames beeps fault) :
    (outcome.2 = fault.map .fault ∧ outcome.1.At last outcome.1.display frames beeps) ∨
      ∃ cause, outcome.2 = some (.drawing cause) := by
  obtain ⟨display, _ | ⟨machine, cause⟩⟩ := shown
  · obtain ⟨hresult, hmachine, -, hframes, hbeeps⟩ := h
    exact .inl ⟨hresult, hmachine, rfl, hframes, hbeeps⟩
  · exact .inr ⟨cause, h.1⟩

private theorem renderAll_drawn_succ {ended : Machine}
    (hended : s.machine.afterSteps settings.stepsPerTick = some ended) (later : Nat)
    (last : Machine) (stopped : Bool) :
    s.display.renderAll (settings.drawing.drawn
        (s.machine.machinesIn settings.stepsPerTick (later + 1)) last stopped) =
      match settings.drawing.renderFrame s.display ended.tick.state.screen with
      | (display, none) => display.renderAll (settings.drawing.drawn
          (ended.tick.machinesIn settings.stepsPerTick later) last stopped)
      | (display, some cause) => (display, some (ended.tick, cause)) := by
  rw [Machine.machinesIn_succ hended, Drawing.renderFrame]
  cases settings.drawing with
  | everyFrame =>
    rw [if_pos rfl, Drawing.drawn_cons, Display.renderAll]
  | atEnd => rfl
  | never => rfl

/-- The frames of a run draw the machines of its course. -/
theorem Works.follows {frames : Nat} {last : Machine} {fault : Option Fault}
    (h : Works settings s n outcome)
    (hends : s.machine.EndsAt settings.stepsPerTick n frames last fault) :
    Follows outcome
      (s.display.renderAll (settings.drawing.drawn
        (s.machine.machinesIn settings.stepsPerTick frames) last fault.isSome))
      last (s.frames + frames) (s.beeps + s.machine.beepsIn settings.stepsPerTick frames)
      fault := by
  induction h generalizing frames with
  | finished s =>
    obtain ⟨rfl, rfl, rfl⟩ := hends.zero
    exact s.finish_follows settings
  | @stopped s n j halted cause failed =>
    obtain ⟨rfl, rfl, rfl⟩ := hends.of_failsAt failed
    exact (s.haltedAt j last cause).stop_follows settings.drawing cause
  | @undrawn s n ended display cause stepped shown =>
    obtain ⟨later, rfl, -⟩ := hends.of_afterSteps stepped
    rw [renderAll_drawn_succ stepped, shown]
    exact ⟨rfl, rfl, rfl⟩
  | @worked s n ended display outcome stepped shown rest ih =>
    obtain ⟨later, rfl, hlater⟩ := hends.of_afterSteps stepped
    have hrest := ih hlater
    rw [renderAll_drawn_succ stepped, shown, Machine.beepsIn_succ stepped]
    simpa only [behind, note, Nat.add_assoc, Nat.add_comm 1] using hrest

/-- A run with keys that the keypad has draws the machines of its course, with the keys pressed. -/
theorem run_follows {m last : Machine} {frames : Nat} {fault : Option Fault} (display : Display)
    (journal : Journal) (hkeys : ∀ key ∈ settings.heldKeys, key.toNat < 16)
    (h : (m.holding settings.heldKeys).EndsAt settings.stepsPerTick settings.frames frames last
      fault) :
    Follows ((start m display journal).run settings)
      (display.renderAll (settings.drawing.drawn
        ((m.holding settings.heldKeys).machinesIn settings.stepsPerTick frames) last fault.isSome))
      last frames ((m.holding settings.heldKeys).beepsIn settings.stepsPerTick frames) fault := by
  have hwork := (works_work (start (m.holding settings.heldKeys) display journal) settings
    settings.frames).follows h
  simp only [start, Nat.zero_add] at hwork
  rw [run_eq_work _ hkeys]
  exact hwork

end Session
end ChipEight
