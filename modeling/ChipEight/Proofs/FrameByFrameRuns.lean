import ChipEight.Proofs.RunCourses

/-!
# Host runs frame by frame

What a run does, said by counting: the held keys are pressed, then so many frames of so many steps
and a tick are worked through, and the run ends behind the last frame or at the first step that
fails. The machine, the numbers of frames and beeps and the screens drawn are functions of that
place alone. The display is one that never fails.
-/

namespace ChipEight

/-- A display whose sink takes everything and never fails to flush. -/
structure Display.Reliable (d : Display) : Prop where
  room : d.sink.room = none
  flushes : d.sink.flushFails = false

namespace Drawing

/-- The screens that a run without a fault draws, given those at the ends of its frames and the
last one. -/
def whenFinished (drawing : Drawing) (shown : List Screen) (last : Screen) : List Screen :=
  match drawing with
  | .never => []
  | .atEnd => [last]
  | .everyFrame => shown

/-- The screens that a run up to a fault draws. -/
def whenStopped (drawing : Drawing) (shown : List Screen) (last : Screen) : List Screen :=
  match drawing with
  | .never => []
  | .atEnd => [last]
  | .everyFrame => shown ++ [last]

private theorem map_drawn_false (drawing : Drawing) (ends : List Machine) (last : Machine) :
    (drawing.drawn ends last false).map (·.state.screen) =
      drawing.whenFinished (ends.map (·.state.screen)) last.state.screen := by
  cases drawing <;> rfl

private theorem map_drawn_true (drawing : Drawing) (ends : List Machine) (last : Machine) :
    (drawing.drawn ends last true).map (·.state.screen) =
      drawing.whenStopped (ends.map (·.state.screen)) last.state.screen := by
  cases drawing with
  | never => rfl
  | atEnd => rfl
  | everyFrame => exact List.map_append

end Drawing

private theorem Machine.map_machinesIn (m : Machine) (k n : Nat) :
    (m.machinesIn k n).map (·.state.screen) = m.screensIn k n :=
  List.map_filterMap

theorem Display.Reliable.renderAll {d : Display} (h : d.Reliable) (machines : List Machine) :
    d.renderAll machines = (d.drawAll (machines.map (·.state.screen)), none) := by
  refine Display.renderAll_of_holds h.flushes ?_
  rw [h.room]
  exact Sink.holds_none _

/-- On a display that never fails a run ends where its frames do. -/
theorem Session.run_reliable {m last : Machine} {settings : Settings} {display : Display}
    {frames : Nat} {fault : Option Fault} (hdisplay : display.Reliable) (journal : Journal)
    (hkeys : ∀ key ∈ settings.heldKeys, key.toNat < 16)
    (h : (m.holding settings.heldKeys).EndsAt settings.stepsPerTick settings.frames frames last
      fault) :
    ∃ s, (start m display journal).run settings = (s, fault.map .fault) ∧
      s.At last
        (display.drawAll ((settings.drawing.drawn
          ((m.holding settings.heldKeys).machinesIn settings.stepsPerTick frames) last
            fault.isSome).map (·.state.screen)))
        frames ((m.holding settings.heldKeys).beepsIn settings.stepsPerTick frames) := by
  have hfollows := run_follows display journal hkeys h
  rw [hdisplay.renderAll] at hfollows
  exact ⟨_, Prod.ext rfl hfollows.1, hfollows.2⟩

/-- What a run does on a display that never fails. A key that the keypad does not have ends it
with the keys before it pressed. Otherwise, with the keys pressed, either all frames succeed or a
first step fails, and either way the machine, the drawing and the two counts are those of the
frames and steps before that place. -/
theorem run_by_frames (m : Machine) (settings : Settings) (journal : Journal) {display : Display}
    (hdisplay : display.Reliable) :
    let run := (Session.start m display journal).run settings
    let ready := m.holding settings.heldKeys
    let k := settings.stepsPerTick
    (∀ before key after, settings.heldKeys = before ++ key :: after →
      (∀ held ∈ before, held.toNat < 16) → 16 ≤ key.toNat →
        run = (Session.start (m.holding before) display journal,
          some (.fault (.invalidKey key)))) ∧
    ((∀ key ∈ settings.heldKeys, key.toNat < 16) →
      (∀ last, ready.afterFrames k settings.frames = some last →
        ∃ s, run = (s, none) ∧
          s.At last
            (display.drawAll (settings.drawing.whenFinished
              (ready.screensIn k settings.frames) last.state.screen))
            settings.frames (ready.beepsIn k settings.frames)) ∧
      (∀ f j halted fault, f < settings.frames → ready.FailsAt k f j halted fault →
        ∃ s, run = (s, some (.fault fault)) ∧
          s.At halted
            (display.drawAll (settings.drawing.whenStopped
              (ready.screensIn k f) halted.state.screen))
            f (ready.beepsIn k f)) ∧
      ((∃ last, ready.afterFrames k settings.frames = some last) ∨
        ∃ f j halted fault, f < settings.frames ∧ ready.FailsAt k f j halted fault)) := by
  intro run ready k
  refine ⟨?_, ?_⟩
  · intro before key after hheld hbefore hkey
    dsimp only [run]
    rw [Session.run, hheld, Session.pressAll_append hbefore, Session.pressAll_invalid hkey]
    rfl
  · intro hkeys
    refine ⟨?_, ?_, ready.afterFrames_or_failsAt _ _⟩
    · intro last hlast
      have hends : ready.EndsAt k settings.frames settings.frames last none := ⟨rfl, hlast⟩
      obtain ⟨s, hrun, hat⟩ := Session.run_reliable hdisplay journal hkeys hends
      rw [Option.isSome_none, Drawing.map_drawn_false, Machine.map_machinesIn] at hat
      exact ⟨s, hrun, hat⟩
    · intro f j halted fault hf hfails
      have hends : ready.EndsAt k settings.frames f halted (some fault) := ⟨hf, j, hfails⟩
      obtain ⟨s, hrun, hat⟩ := Session.run_reliable hdisplay journal hkeys hends
      rw [Option.isSome_some, Drawing.map_drawn_true, Machine.map_machinesIn] at hat
      exact ⟨s, hrun, hat⟩

/-- Two frames of a program that sounds for two ticks beep once; a program that clears the screen
and returns stops in its first frame; a key that does not exist is refused. -/
theorem run_by_frames_beep :
    let loaded (program : List UInt8) :=
      ((Machine.initial (.ofList [])).performAll [.load program]).1
    let display := Display.initial true .reliable
    let started (program : List UInt8) := Session.start (loaded program) display (.empty none)
    let settings (keys : List UInt8) : Settings := ⟨3, 2, keys, .everyFrame, false, false⟩
    display.Reliable ∧
    (∃ s, (started [0x60, 0x02, 0xF0, 0x18, 0x12, 0x04]).run (settings [0x0A]) = (s, none) ∧
      s.frames = 2 ∧ s.beeps = 1) ∧
    (∃ s, (started [0x00, 0xE0, 0x00, 0xEE]).run (settings []) =
      (s, some (.fault (.stackUnderflow 0x204))) ∧ s.frames = 0 ∧ s.beeps = 0) ∧
    ((started []).run (settings [0x03, 0x10, 0x11])).2 = some (.fault (.invalidKey 0x10)) := by
  intro loaded display started settings
  have reliable : display.Reliable := ⟨rfl, rfl⟩
  refine ⟨reliable, ?_, ?_, ?_⟩
  · obtain ⟨finished, _⟩ := (run_by_frames (loaded [0x60, 0x02, 0xF0, 0x18, 0x12, 0x04])
      (settings [0x0A]) (.empty none) reliable).2 (by simp [settings])
    have worked : (((loaded [0x60, 0x02, 0xF0, 0x18, 0x12, 0x04]).holding [0x0A]).afterFrames
        3 2).isSome := by decide +kernel
    have beeps :
        ((loaded [0x60, 0x02, 0xF0, 0x18, 0x12, 0x04]).holding [0x0A]).beepsIn 3 2 = 1 := by
      decide +kernel
    obtain ⟨last, hlast⟩ := Option.isSome_iff_exists.1 worked
    obtain ⟨s, hrun, hat⟩ := finished last hlast
    exact ⟨s, hrun, hat.frames_eq, hat.beeps_eq.trans beeps⟩
  · obtain ⟨_, stopped, _⟩ := (run_by_frames (loaded [0x00, 0xE0, 0x00, 0xEE]) (settings [])
      (.empty none) reliable).2 (by simp [settings])
    have worked : (((loaded [0x00, 0xE0, 0x00, 0xEE]).holding []).afterSteps 1).any
        (fun halted => Fault.of? halted.step = some (.stackUnderflow 0x204)) := by decide +kernel
    obtain ⟨halted, hhalted, hfault⟩ := (Option.any_eq_true _ _).1 worked
    have fails : ((loaded [0x00, 0xE0, 0x00, 0xEE]).holding []).FailsAt 3 0 1 halted
        (.stackUnderflow 0x204) :=
      ⟨by decide, hhalted, Fault.of?_eq_some_iff.1 (of_decide_eq_true hfault)⟩
    obtain ⟨s, hrun, hat⟩ := stopped 0 1 halted _ (by decide) fails
    exact ⟨s, hrun, hat.frames_eq, hat.beeps_eq⟩
  · have refused := (run_by_frames (loaded []) (settings [0x03, 0x10, 0x11])
      (.empty none) reliable).1 [0x03] 0x10 [0x11] rfl (by simp) (by simp)
    exact congrArg Prod.snd refused

end ChipEight
