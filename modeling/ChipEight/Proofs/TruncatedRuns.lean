import ChipEight.Proofs.DrawnBytes
import ChipEight.Proofs.RunCourses

/-!
# Truncated runs

A run on a sink with limited room writes a beginning of what it would write without a limit. If all
of it fits, nothing else changes; otherwise the run ends with the drawing during which the room came
to its end, and with the machine that was being drawn, whatever the frames after it or a fault would
have brought.
-/

namespace ChipEight

namespace Display

/-- The bytes of drawing some machines one after the other. -/
def machinesBytes (inPlace whole : Bool) (machines : List Machine) : ByteArray :=
  framesBytes inPlace whole (machines.map (·.state.screen))

variable {d : Display} {machines : List Machine}

private theorem machinesBytes_cons (inPlace whole : Bool) (m : Machine) (rest : List Machine) :
    machinesBytes inPlace whole (m :: rest) =
      frameBytes inPlace whole m.state.screen ++ machinesBytes inPlace true rest :=
  rfl

private theorem renderAll_cons (hflush : d.sink.flushFails = false) (m : Machine)
    (rest : List Machine) :
    d.renderAll (m :: rest) =
      let data := frameBytes d.inPlace d.drawn m.state.screen
      if Sink.Holds d.sink.room data then
        { d with drawn := true, sink := d.sink.taking data }.renderAll rest
      else ({ d with sink := d.sink.taking data }, some (m, .full)) := by
  rw [renderAll, render_eq]
  by_cases hholds : Sink.Holds d.sink.room (frameBytes d.inPlace d.drawn m.state.screen)
  · simp [hholds, Sink.flush, hflush]
  · simp [hholds]

/-- With too little room the drawings fail during one of them, which is the first whose bytes do not
fit behind those before it. -/
theorem renderAll_of_not_holds (hflush : d.sink.flushFails = false)
    (h : ¬ Sink.Holds d.sink.room (machinesBytes d.inPlace d.drawn machines)) :
    ∃ next before m after, machines = before ++ m :: after ∧
      d.renderAll machines = (next, some (m, .full)) ∧
      next.sink = d.sink.taking (machinesBytes d.inPlace d.drawn machines) ∧
      Sink.Holds d.sink.room (machinesBytes d.inPlace d.drawn before) ∧
      ¬ Sink.Holds d.sink.room (machinesBytes d.inPlace d.drawn (before ++ [m])) := by
  induction machines generalizing d with
  | nil => exact absurd (fun n _ => Nat.zero_le n) h
  | cons m rest ih =>
    rw [renderAll_cons hflush, machinesBytes_cons]
    rw [machinesBytes_cons] at h
    by_cases hfirst : Sink.Holds d.sink.room (frameBytes d.inPlace d.drawn m.state.screen)
    · simp only [if_pos hfirst, Sink.taking_append]
      rw [Sink.holds_append, not_and] at h
      obtain ⟨next, before, cut, after, rfl, hcut, hsink, hholds, hnot⟩ := ih
        (d := { d with
          drawn := true
          sink := d.sink.taking (frameBytes d.inPlace d.drawn m.state.screen) })
        hflush (h hfirst)
      refine ⟨next, m :: before, cut, after, rfl, hcut, hsink, ?_, ?_⟩
      · rw [machinesBytes_cons, Sink.holds_append]
        exact ⟨hfirst, hholds⟩
      · rw [List.cons_append, machinesBytes_cons, Sink.holds_append]
        exact fun hboth => hnot hboth.2
    · simp only [if_neg hfirst, Sink.taking_append_of_not_holds hfirst]
      refine ⟨_, [], m, rest, rfl, rfl, rfl, fun n _ => Nat.zero_le n, ?_⟩
      rw [List.nil_append, machinesBytes_cons, Sink.holds_append]
      exact fun hboth => hfirst hboth.1

theorem renderAll_of_unflushed (hroom : d.sink.room = none) (hflush : d.sink.flushFails = true)
    (m : Machine) (rest : List Machine) :
    ∃ next, d.renderAll (m :: rest) = (next, some (m, .notFlushed)) ∧
      next.sink = d.sink.taking (machinesBytes d.inPlace d.drawn [m]) := by
  have hholds : Sink.Holds d.sink.room (frameBytes d.inPlace d.drawn m.state.screen) := by
    rw [hroom]
    exact Sink.holds_none _
  have hbytes : machinesBytes d.inPlace d.drawn [m] =
      frameBytes d.inPlace d.drawn m.state.screen := ByteArray.append_empty
  rw [renderAll, render_eq, hbytes]
  simp only [if_pos hholds, Sink.flush, hflush, if_true]
  exact ⟨_, rfl, rfl⟩

end Display

namespace Session.Follows

variable {outcome : Session × Option RunFailure} {d : Display} {machines : List Machine}
  {last : Machine} {frames beeps : Nat} {fault : Option Fault}

theorem of_holds (h : Follows outcome (d.renderAll machines) last frames beeps fault)
    (hflush : d.sink.flushFails = false)
    (hholds : Sink.Holds d.sink.room (Display.machinesBytes d.inPlace d.drawn machines)) :
    outcome.2 = fault.map .fault ∧ outcome.1.machine = last ∧ outcome.1.frames = frames ∧
      outcome.1.beeps = beeps ∧
      outcome.1.display.sink =
        d.sink.taking (Display.machinesBytes d.inPlace d.drawn machines) := by
  rw [Display.renderAll_of_holds hflush hholds] at h
  obtain ⟨hends, hmachine, hdisplay, hframes, hbeeps⟩ := h
  refine ⟨hends, hmachine, hframes, hbeeps, ?_⟩
  rw [hdisplay]
  exact Display.sink_drawAll_of_holds hholds

theorem of_not_holds (h : Follows outcome (d.renderAll machines) last frames beeps fault)
    (hflush : d.sink.flushFails = false)
    (hholds : ¬ Sink.Holds d.sink.room (Display.machinesBytes d.inPlace d.drawn machines)) :
    outcome.2 = some (.drawing .full) ∧
      outcome.1.display.sink = d.sink.taking (Display.machinesBytes d.inPlace d.drawn machines) ∧
      ∃ before after, machines = before ++ outcome.1.machine :: after ∧
        Sink.Holds d.sink.room (Display.machinesBytes d.inPlace d.drawn before) ∧
        ¬ Sink.Holds d.sink.room
          (Display.machinesBytes d.inPlace d.drawn (before ++ [outcome.1.machine])) := by
  obtain ⟨next, before, cut, after, hsplit, hnext, hsink, hbefore, hcut⟩ :=
    Display.renderAll_of_not_holds hflush hholds
  rw [hnext] at h
  obtain ⟨hends, rfl, hdisplay⟩ := h
  exact ⟨hends, hdisplay ▸ hsink, before, after, hsplit, hbefore, hcut⟩

theorem of_unflushed {m : Machine} {rest : List Machine}
    (h : Follows outcome (d.renderAll (m :: rest)) last frames beeps fault)
    (hroom : d.sink.room = none) (hflush : d.sink.flushFails = true) :
    outcome.2 = some (.drawing .notFlushed) ∧ outcome.1.machine = m ∧
      outcome.1.display.sink = d.sink.taking (Display.machinesBytes d.inPlace d.drawn [m]) := by
  obtain ⟨next, hnext, hsink⟩ := Display.renderAll_of_unflushed hroom hflush m rest
  rw [hnext] at h
  obtain ⟨hends, hmachine, hdisplay⟩ := h
  exact ⟨hends, hmachine, hdisplay ▸ hsink⟩

theorem of_undrawn (h : Follows outcome (d.renderAll []) last frames beeps fault) :
    outcome.1.display = d ∧ ∀ cause, outcome.2 ≠ some (.drawing cause) := by
  obtain ⟨hends, _, hdisplay, _⟩ := h
  refine ⟨hdisplay, fun cause hdraws => ?_⟩
  rw [hends] at hdraws
  cases fault <;> cases hdraws

end Session.Follows

/-- A run on a sink with limited room writes the first bytes of what it writes on one without a
limit. If there is room for all of them it ends in the same way with the same machine. Otherwise it
fails to draw, even where a fault has stopped it, and leaves the machine as it was when that drawing
began: the one during whose drawing the room comes to its end. Where only flushing fails, a run that
draws at all fails at its first drawing, with the bytes of that drawing written. A run that never
draws writes nothing and does not fail to draw. -/
theorem limited_run_is_beginning (m : Machine) (settings : Settings) (journal : Journal)
    (inPlace : Bool) (hkeys : ∀ key ∈ settings.heldKeys, key.toNat < 16) :
    let ready := m.holding settings.heldKeys
    let k := settings.stepsPerTick
    let run (sink : Sink) := (Session.start m (.initial inPlace sink) journal).run settings
    let bytes (machines : List Machine) := Display.machinesBytes inPlace false machines
    let full := run .reliable
    let total := full.1.display.sink.written
    ∃ frames last fault, ready.EndsAt k settings.frames frames last fault ∧
      let drawn := settings.drawing.drawn (ready.machinesIn k frames) last fault.isSome
      (total = bytes drawn ∧ full.2 = fault.map .fault ∧ full.1.machine = last) ∧
      (∀ budget, let cut := run ⟨.empty, some budget, false⟩
        cut.1.display.sink.written = total.extract 0 (min budget total.size) ∧
        (total.size ≤ budget → cut.2 = full.2 ∧ cut.1.machine = full.1.machine ∧
          cut.1.frames = full.1.frames ∧ cut.1.beeps = full.1.beeps) ∧
        (budget < total.size → cut.2 = some (.drawing .full) ∧
          ∃ before after, drawn = before ++ cut.1.machine :: after ∧
            (bytes before).size ≤ budget ∧ budget < (bytes (before ++ [cut.1.machine])).size)) ∧
      (∀ first rest, drawn = first :: rest → let unflushed := run ⟨.empty, none, true⟩
        unflushed.2 = some (.drawing .notFlushed) ∧ unflushed.1.machine = first ∧
          unflushed.1.display.sink.written = bytes [first]) ∧
      (settings.drawing = .never → ∀ sink, (run sink).1.display.sink.written = sink.written ∧
        ∀ cause, (run sink).2 ≠ some (.drawing cause)) := by
  intro ready k run bytes full total
  obtain ⟨frames, last, fault, hends⟩ := ready.exists_endsAt k settings.frames
  refine ⟨frames, last, fault, hends, ?_⟩
  intro drawn
  have follows (sink : Sink) : Session.Follows (run sink)
      ((Display.initial inPlace sink).renderAll drawn) last frames (ready.beepsIn k frames) fault :=
    Session.run_follows _ _ hkeys hends
  obtain ⟨hfull, hlast, hframes, hbeeps, hsink⟩ := (follows .reliable).of_holds rfl
    (Sink.holds_none _)
  have htotal : total = bytes drawn := by
    dsimp only [total, full]
    rw [hsink]
    exact ByteArray.empty_append
  refine ⟨⟨htotal, hfull, hlast⟩, ?_, ?_, ?_⟩
  · intro budget cut
    rw [htotal]
    by_cases hfits : (bytes drawn).size ≤ budget
    · obtain ⟨hends', hlast', hframes', hbeeps', hsink'⟩ :=
        (follows ⟨.empty, some budget, false⟩).of_holds rfl (Sink.holds_some_iff.2 hfits)
      refine ⟨?_, fun _ => ⟨?_, ?_, ?_, ?_⟩, fun hlt => absurd hfits (Nat.not_le_of_lt hlt)⟩
      · rw [hsink']
        exact ByteArray.empty_append
      · exact hends'.trans hfull.symm
      · exact hlast'.trans hlast.symm
      · exact hframes'.trans hframes.symm
      · exact hbeeps'.trans hbeeps.symm
    · obtain ⟨hends', hsink', before, after, hsplit, hbefore, hcut⟩ :=
        (follows ⟨.empty, some budget, false⟩).of_not_holds rfl
          (fun hholds => hfits (Sink.holds_some_iff.1 hholds))
      refine ⟨?_, fun hle => absurd hle hfits, fun _ => ⟨hends', before, after, hsplit, ?_, ?_⟩⟩
      · rw [hsink']
        exact ByteArray.empty_append
      · exact Sink.holds_some_iff.1 hbefore
      · exact Nat.lt_of_not_le fun hle => hcut (Sink.holds_some_iff.2 hle)
  · intro first rest hdrawn unflushed
    have hfollows := follows ⟨.empty, none, true⟩
    rw [hdrawn] at hfollows
    obtain ⟨hends', hmachine, hsink'⟩ := hfollows.of_unflushed rfl rfl
    refine ⟨hends', hmachine, ?_⟩
    rw [hsink']
    exact ByteArray.empty_append
  · intro hnever sink
    have hnone : drawn = [] := by
      dsimp only [drawn]
      rw [hnever]
      rfl
    have hfollows := follows sink
    rw [hnone] at hfollows
    obtain ⟨hdisplay, hdraws⟩ := hfollows.of_undrawn
    exact ⟨congrArg (·.sink.written) hdisplay, hdraws⟩

/-- A program that draws a glyph and then returns from nowhere: with room for five bytes, in the
middle of the sequence for the cursor, or with a sink that cannot be flushed, the run does not
report the fault. -/
theorem limited_run_is_beginning_halted :
    let m := ((Machine.initial (.ofList [])).performAll [.load [0xD0, 0x05, 0x00, 0xEE]]).1
    let settings : Settings := ⟨3, 2, [0x0A], .atEnd, false, false⟩
    let run (sink : Sink) := (Session.start m (.initial true sink) (.empty none)).run settings
    (∀ key ∈ settings.heldKeys, key.toNat < 16) ∧
    (∃ cause, (run .reliable).2 = some (.fault cause)) ∧
    (run ⟨.empty, some 5, false⟩).2 = some (.drawing .full) ∧
    (run ⟨.empty, some 5, false⟩).1.display.sink.written =
      (run .reliable).1.display.sink.written.extract 0 5 ∧
    (run ⟨.empty, none, true⟩).2 = some (.drawing .notFlushed) := by
  intro m settings run
  have valid : ∀ key ∈ settings.heldKeys, key.toNat < 16 := by simp [settings]
  obtain ⟨frames, last, fault, ends, ⟨total, full, _⟩, limited, unflushed, _⟩ :=
    limited_run_is_beginning m settings (.empty none) true valid
  have halts : ((m.holding [0x0A]).afterFrames 3 2).isNone := by decide +kernel
  have long : 5 < (run .reliable).1.display.sink.written.size := by
    have hclear : Display.clearTerminal.toUTF8.size = 4 := by decide
    have hhome : Display.cursorHome.toUTF8.size = 3 := by decide
    have hbytes : (run .reliable).1.display.sink.written = Display.clearTerminal.toUTF8 ++
        Display.framesBytes true true [last.state.screen] :=
      total.trans (Display.framesBytes_first last.state.screen [])
    rw [hbytes]
    simp only [Display.framesBytes, Display.frameBytes, if_true, ByteArray.size_append, hclear,
      hhome]
    omega
  obtain ⟨written, _, cut⟩ := limited 5
  refine ⟨valid, ?_, (cut long).1, ?_, (unflushed last [] rfl).1⟩
  · cases fault with
    | none => cases (Option.isNone_iff_eq_none.1 halts).symm.trans ends.2
    | some cause => exact ⟨cause, full⟩
  · rw [Nat.min_eq_left (Nat.le_of_lt long)] at written
    exact written

end ChipEight
