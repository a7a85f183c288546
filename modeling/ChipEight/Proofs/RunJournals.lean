import ChipEight.Proofs.JournalLines
import ChipEight.Proofs.RunCourses

/-!
# What a run reports

The journal of a run tells its course, on every display. Each step that fetches a word reports it
with the registers before the step; a tick that beeps reports the number of its frame behind the
steps of that frame; and a step that fails is the last one, with a report of the machine, if it had
fetched a word, and one of the run.
-/

namespace ChipEight

namespace Machine

/-- What the first `j` steps of frame number `f` report. -/
def stepsEventsIn (m : Machine) (k f j : Nat) : List Event :=
  ((m.afterFrames k f).map (·.stepsEvents j)).getD []

/-- What the first `n` frames report if the numbers of frames start with `first`. -/
def framesEvents (m : Machine) (k first n : Nat) : List Event :=
  (List.range n).flatMap fun f =>
    m.stepsEventsIn k f k ++ if m.beepsAt k f then [.beep (first + f)] else []

end Machine

/-- The drawings at the ends of the first `c` frames succeed, which are made if every frame is
drawn. -/
def Session.DrawsFrames (s : Session) (settings : Settings) (c : Nat) : Prop :=
  settings.drawing = .everyFrame →
    (s.display.renderAll (s.machine.machinesIn settings.stepsPerTick c)).2 = none

/-- What the first `n` frames of a run report that begin with a session, given how the run ends. -/
inductive Session.Tells (s : Session) (settings : Settings) (n : Nat)
    (run : Session × Option RunFailure) : List Event → Prop where
  /-- All steps succeed, those of all frames or of the frames up to a drawing that fails. -/
  | worked {c : Nat} (le : c ≤ n)
      (reached : s.machine.afterFrames settings.stepsPerTick c = some run.1.machine)
      (frames : run.1.frames = s.frames + c)
      (beeps : run.1.beeps = s.beeps + s.machine.beepsIn settings.stepsPerTick c)
      (drawn : ∀ b < c, s.DrawsFrames settings b)
      (ends : c = n ∧ run.2 = none ∨
        (c = n ∨ ¬ s.DrawsFrames settings c) ∧ ∃ cause, run.2 = some (.drawing cause)) :
      s.Tells settings n run (s.machine.framesEvents settings.stepsPerTick s.frames c)
  /-- A step fails, whether the drawing behind it fails too or not. -/
  | halted {c j : Nat} {fault : Fault} (lt : c < n)
      (failed : s.machine.FailsAt settings.stepsPerTick c j run.1.machine fault)
      (frames : run.1.frames = s.frames + c)
      (beeps : run.1.beeps = s.beeps + s.machine.beepsIn settings.stepsPerTick c)
      (drawn : s.DrawsFrames settings c)
      (ends : run.2 = some (.fault fault) ∨ ∃ cause, run.2 = some (.drawing cause)) :
      s.Tells settings n run
        (s.machine.framesEvents settings.stepsPerTick s.frames c ++
          s.machine.stepsEventsIn settings.stepsPerTick c j ++
          run.1.machine.haltEvents fault ++ [.stopped (s.frames + c) fault])

namespace Machine

variable {m ended : Machine} {k : Nat}

private theorem stepsEventsIn_succ (h : m.afterSteps k = some ended) (f j : Nat) :
    m.stepsEventsIn k (f + 1) j = ended.tick.stepsEventsIn k f j := by
  rw [stepsEventsIn, afterFrames_succ h, stepsEventsIn]

private theorem framesEvents_succ (h : m.afterSteps k = some ended) (first n : Nat) :
    m.framesEvents k first (n + 1) =
      m.stepsEvents k ++ (if ended.beeps then [.beep first] else []) ++
        ended.tick.framesEvents k (first + 1) n := by
  rw [framesEvents, List.range_succ_eq_map, List.flatMap_cons, List.flatMap_map, beepsAt_zero h]
  simp only [Nat.succ_eq_add_one, stepsEventsIn_succ h, beepsAt_succ h, framesEvents, Nat.add_assoc,
    Nat.add_comm 1]
  rfl

end Machine

namespace Session

variable {s : Session} {settings : Settings} {ended : Machine} {display : Display}
  {outcome : Session × Option RunFailure} {told : List Event} {n : Nat}

private theorem drawsFrames_zero (s : Session) (settings : Settings) : s.DrawsFrames settings 0 :=
  fun _ => rfl

private theorem drawsFrames_succ
    (stepped : s.machine.afterSteps settings.stepsPerTick = some ended)
    (shown : settings.drawing.renderFrame s.display ended.tick.state.screen = (display, none))
    (c : Nat) :
    s.DrawsFrames settings (c + 1) ↔ (s.behind settings ended display).DrawsFrames settings c := by
  rw [DrawsFrames, DrawsFrames, Machine.machinesIn_succ stepped, Display.renderAll]
  refine forall_congr' fun hevery => ?_
  rw [Drawing.renderFrame, if_pos hevery] at shown
  rw [shown]
  rfl

private theorem not_drawsFrames_one {cause : SinkFailure}
    (stepped : s.machine.afterSteps settings.stepsPerTick = some ended)
    (shown : settings.drawing.renderFrame s.display ended.tick.state.screen =
      (display, some cause)) :
    ¬ s.DrawsFrames settings 1 := by
  rw [Drawing.renderFrame] at shown
  split at shown
  · next hevery =>
    intro hdraws
    have hnone := hdraws hevery
    rw [Machine.machinesIn_succ stepped, Display.renderAll, shown] at hnone
    cases hnone
  · cases shown

private theorem Tells.cons (stepped : s.machine.afterSteps settings.stepsPerTick = some ended)
    (shown : settings.drawing.renderFrame s.display ended.tick.state.screen = (display, none))
    (h : (s.behind settings ended display).Tells settings n outcome told) :
    s.Tells settings (n + 1) outcome
      (s.machine.stepsEvents settings.stepsPerTick ++
        (if ended.beeps then [.beep s.frames] else []) ++ told) := by
  have hdraws := drawsFrames_succ stepped shown
  have sums {c : Nat} (h : outcome.1.beeps = (s.beeps + if ended.beeps then 1 else 0) +
        ended.tick.beepsIn settings.stepsPerTick c) :
      outcome.1.beeps = s.beeps + s.machine.beepsIn settings.stepsPerTick (c + 1) := by
    rw [h, Machine.beepsIn_succ stepped, Nat.add_assoc]
  cases h with
  | @worked c le reached frames beeps drawn ends =>
    dsimp only [behind, note] at reached frames beeps ⊢
    rw [← Machine.framesEvents_succ stepped]
    refine .worked (by omega) ?_ (by omega) (sums beeps) ?_ ?_
    · rw [Machine.afterFrames_succ stepped]
      exact reached
    · intro b hb
      cases b with
      | zero => exact s.drawsFrames_zero settings
      | succ b => exact (hdraws b).2 (drawn b (by omega))
    · rw [hdraws, Nat.add_right_cancel_iff]
      exact ends
  | @halted c j fault lt failed frames beeps drawn ends =>
    dsimp only [behind, note] at failed frames beeps ⊢
    rw [Nat.add_assoc, Nat.add_comm 1, ← Machine.stepsEventsIn_succ stepped, ← List.append_assoc,
      ← List.append_assoc, ← List.append_assoc, ← Machine.framesEvents_succ stepped]
    exact .halted (by omega) (failed.cons stepped) (by omega) (sums beeps) ((hdraws c).2 drawn) ends

/-- The frames of a run and what follows them are told in order. -/
theorem Works.tells (h : Works settings s n outcome) :
    ∃ told, outcome.1.journal = s.journal.record told ∧ s.Tells settings n outcome told := by
  induction h with
  | finished s =>
    obtain ⟨display, failure, hfinish, hfailure⟩ := s.exists_finish settings
    rw [hfinish]
    refine ⟨_, s.journal.record_nil.symm, .worked (c := 0) (Nat.le_refl 0) rfl rfl rfl ?_ ?_⟩
    · exact fun b hb => absurd hb (Nat.not_lt_zero b)
    · exact hfailure.imp (⟨rfl, ·⟩) (⟨.inl rfl, ·⟩)
  | @stopped s n j halted fault failed =>
    obtain ⟨display, failure, hstop, hfailure⟩ := (s.haltedAt j halted fault).exists_stop
      settings.drawing fault
    rw [hstop]
    refine ⟨_, s.journal.record_record _ _, .halted (c := 0) (Nat.succ_pos n) failed rfl rfl
      (s.drawsFrames_zero settings) (hfailure.imp (congrArg some) fun ⟨cause, h⟩ =>
        ⟨cause, congrArg some h⟩)⟩
  | @undrawn s n ended display cause stepped shown =>
    refine ⟨s.machine.framesEvents settings.stepsPerTick s.frames 1, ?_,
      .worked (c := 1) (by omega) ?_ rfl ?_ ?_
        (.inr ⟨.inr (not_drawsFrames_one stepped shown), cause, rfl⟩)⟩
    · rw [Machine.framesEvents_succ stepped]
      exact congrArg s.journal.record (List.append_nil _).symm
    · exact Machine.afterFrames_succ stepped 0
    · rw [Machine.beepsIn_succ stepped]
      rfl
    · intro b hb
      obtain rfl : b = 0 := by omega
      exact s.drawsFrames_zero settings
  | @worked s n ended display outcome stepped shown rest ih =>
    obtain ⟨told, hjournal, htells⟩ := ih
    refine ⟨_, ?_, htells.cons stepped shown⟩
    rw [← Journal.record_record]
    exact hjournal

end Session

namespace Machine

variable {m : Machine} {k first : Nat} {e : Event}

private theorem level_of_mem_stepsEvents {n : Nat} (h : e ∈ m.stepsEvents n) :
    e.level = .trace := by
  obtain ⟨j, -, hj⟩ := List.mem_filterMap.1 h
  obtain ⟨reached, -, rfl⟩ := Option.map_eq_some_iff.1 hj
  rfl

private theorem level_of_mem_stepsEventsIn {f j : Nat} (h : e ∈ m.stepsEventsIn k f j) :
    e.level = .trace := by
  rw [stepsEventsIn] at h
  cases hbegun : m.afterFrames k f with
  | none => simp [hbegun] at h
  | some begun =>
    rw [hbegun] at h
    exact level_of_mem_stepsEvents h

private theorem filter_stepsEventsIn {level : Level} (hlevel : level ≠ .trace) (f j : Nat) :
    (m.stepsEventsIn k f j).filter (·.level = level) = [] := by
  refine List.filter_eq_nil_iff.2 fun e he => ?_
  rw [level_of_mem_stepsEventsIn he, decide_eq_true_eq]
  exact hlevel.symm

theorem filter_framesEvents {level : Level} (hlevel : level ≠ .trace) (n : Nat) :
    (m.framesEvents k first n).filter (·.level = level) =
      if level = .info then ((List.range n).filter (m.beepsAt k)).map fun f => .beep (first + f)
      else [] := by
  induction n with
  | zero => simp [framesEvents]
  | succ n ih =>
    rw [framesEvents] at ih ⊢
    rw [List.range_succ, List.flatMap_append, List.filter_append, ih, List.flatMap_singleton,
      List.filter_append, filter_stepsEventsIn hlevel, List.filter_append, List.map_append]
    by_cases hbeeps : m.beepsAt k n
    · cases level <;> simp [hbeeps, Event.level]
    · simp [hbeeps]

private theorem filter_stops (m : Machine) (fault : Fault) (frames : Nat) {level : Level}
    (hlevel : level ≠ .trace) :
    let stops := (m.haltEvents fault ++ [Event.stopped frames fault]).filter (·.level = level)
    stops.length ≤ 1 ∧ (level = .info → stops = []) := by
  rw [haltEvents]
  cases level with
  | trace => exact absurd rfl hlevel
  | info => split <;> exact ⟨Nat.zero_le 1, fun _ => rfl⟩
  | debug =>
    have hinfo : Level.debug ≠ .info := by decide
    split
    · exact ⟨Nat.le_refl 1, fun h => absurd h hinfo⟩
    · exact ⟨Nat.zero_le 1, fun h => absurd h hinfo⟩
  | error =>
    have hinfo : Level.error ≠ .info := by decide
    split <;> exact ⟨Nat.le_refl 1, fun h => absurd h hinfo⟩

end Machine

namespace Session.Tells

variable {s : Session} {settings : Settings} {n : Nat} {run : Session × Option RunFailure}
  {told : List Event}

/-- Apart from steps, a run tells the beeps of its whole frames and how it was stopped. -/
theorem filter_level (h : s.Tells settings n run told) :
    ∃ c ≤ n, run.1.beeps = s.beeps + s.machine.beepsIn settings.stepsPerTick c ∧
      ∀ level ≠ .trace, ∃ stops, told.filter (·.level = level) =
          (if level = .info then
            ((List.range c).filter (s.machine.beepsAt settings.stepsPerTick)).map
              fun f => .beep (s.frames + f)
          else []) ++ stops ∧
        stops.length ≤ 1 ∧ (level = .info → stops = []) := by
  cases h with
  | @worked c le _ _ beeps =>
    refine ⟨c, le, beeps, fun level hlevel => ⟨[], ?_, Nat.zero_le 1, fun _ => rfl⟩⟩
    rw [Machine.filter_framesEvents hlevel, List.append_nil]
  | @halted c j fault lt _ _ beeps =>
    refine ⟨c, Nat.le_of_lt lt, beeps, fun level hlevel => ?_⟩
    refine ⟨_, ?_, run.1.machine.filter_stops fault (s.frames + c) hlevel⟩
    rw [List.append_assoc, List.filter_append, List.filter_append,
      Machine.filter_framesEvents hlevel, Machine.filter_stepsEventsIn hlevel, List.append_nil]

theorem filter_info (h : s.Tells settings n run told) (hframes : s.frames = 0)
    (hbeeps : s.beeps = 0) :
    ∃ beeps : List Nat, told.filter (·.level = .info) = beeps.map .beep ∧
      beeps.length = run.1.beeps ∧ beeps.Pairwise (· < ·) ∧ ∀ f ∈ beeps, f < n := by
  obtain ⟨c, hc, hcount, hlevels⟩ := h.filter_level
  obtain ⟨stops, hfilter, -, hnone⟩ := hlevels .info (by decide)
  rw [hnone rfl, List.append_nil, if_pos rfl, hframes] at hfilter
  refine ⟨(List.range c).filter (s.machine.beepsAt settings.stepsPerTick), ?_, ?_, ?_, ?_⟩
  · simpa only [Nat.zero_add] using hfilter
  · rw [hcount, hbeeps, Nat.zero_add, Machine.beepsIn, List.countP_eq_length_filter]
  · exact List.pairwise_lt_range.filter _
  · intro f hf
    exact Nat.lt_of_lt_of_le (List.mem_range.1 (List.mem_filter.1 hf).1) hc

private theorem length_filter_le_one (h : s.Tells settings n run told) {level : Level}
    (htrace : level ≠ .trace) (hinfo : level ≠ .info) :
    (told.filter (·.level = level)).length ≤ 1 := by
  obtain ⟨c, -, -, hlevels⟩ := h.filter_level
  obtain ⟨stops, hfilter, hstops, -⟩ := hlevels level htrace
  rwa [hfilter, if_neg hinfo]

end Session.Tells

/-- With keys that the keypad has, a journal of any run gains what `Session.Tells` spells out, and
the lines of a journal that keeps everything report those events one by one and no others. So beeps
are reported as often as they are counted, with numbers of frames that grow, and at most one event
tells of a machine that halted and at most one of a run that stopped. -/
theorem journal_tells_run (m : Machine) (settings : Settings) (display : Display)
    (journal : Journal) (hkeys : ∀ key ∈ settings.heldKeys, key.toNat < 16) :
    let ready := Session.start (m.holding settings.heldKeys) display journal
    let run := (Session.start m display journal).run settings
    ∃ told, ready.Tells settings settings.frames run told ∧
      run.1.journal = journal.record told ∧
      (journal.threshold = some .trace →
        ∃ lines, run.1.journal.lines = journal.lines ++ lines ∧
          List.Forall₂ Event.Reports told lines) ∧
      (∃ beeps : List Nat, told.filter (·.level = .info) = beeps.map .beep ∧
        beeps.length = run.1.beeps ∧ beeps.Pairwise (· < ·) ∧ ∀ f ∈ beeps, f < settings.frames) ∧
      (told.filter (·.level = .debug)).length ≤ 1 ∧
      (told.filter (·.level = .error)).length ≤ 1 := by
  intro ready run
  have hrun : run = ready.work settings settings.frames := Session.run_eq_work _ hkeys
  obtain ⟨told, hjournal, htells⟩ := (ready.works_work settings settings.frames).tells
  rw [← hrun] at hjournal htells
  refine ⟨told, htells, hjournal, ?_, htells.filter_info rfl rfl,
    htells.length_filter_le_one (by decide) (by decide),
    htells.length_filter_le_one (by decide) (by decide)⟩
  intro htrace
  rw [hjournal]
  exact Journal.lines_record htrace told

/-- A program that beeps in frame 0 and returns from nowhere in frame 1, with a sink that has no
room for the last drawing. -/
theorem journal_tells_run_halted :
    let m := ((Machine.initial (.ofList [])).performAll
      [.load [0x60, 0x01, 0xF0, 0x18, 0x00, 0xEE]]).1
    let settings : Settings := ⟨2, 3, [0x0A], .atEnd, false, false⟩
    let run := (Session.start m (.initial true ⟨.empty, some 5, false⟩) (.empty (some .trace))).run
      settings
    (∀ key ∈ settings.heldKeys, key.toNat < 16) ∧
    run.2 = some (.drawing .full) ∧
    run.1.journal.lines = [
      "TRACE 6001 v[00, 00, 00, 00, 00, 00, 00, 00, 00, 00, 00, 00, 00, 00, 00, 00] i0000 pc0200",
      "TRACE F018 v[01, 00, 00, 00, 00, 00, 00, 00, 00, 00, 00, 00, 00, 00, 00, 00] i0000 pc0202",
      "INFO beep at frame 0",
      "TRACE 00EE v[01, 00, 00, 00, 00, 00, 00, 00, 00, 00, 00, 00, 00, 00, 00, 00] i0000 pc0204",
      "DEBUG halted at 0204: stack underflow: return at 0x0206 with an empty call stack",
      "ERROR halted after 1 frames: stack underflow: return at 0x0206 with an empty call stack"] ∧
    ∃ told : List Event, List.Forall₂ Event.Reports told run.1.journal.lines ∧
      told.map Event.level = [.trace, .trace, .info, .trace, .debug, .error] ∧
      told.getLast? = some (.stopped 1 (.stackUnderflow 0x206)) := by
  intro m settings run
  have valid : ∀ key ∈ settings.heldKeys, key.toNat < 16 := by simp [settings]
  obtain ⟨told, tells, -, reports, -⟩ := journal_tells_run m settings
    (.initial true ⟨.empty, some 5, false⟩) (.empty (some .trace)) valid
  obtain ⟨undrawn, known⟩ : run.2 = some (.drawing .full) ∧
      Fault.of? run.1.machine.step = some (.stackUnderflow 0x206) := by
    decide +kernel
  obtain ⟨lines, shown, reports⟩ := reports rfl
  refine ⟨valid, undrawn, by decide +kernel, told, shown ▸ reports, ?_⟩
  obtain ⟨halts, place⟩ : ((m.holding [0x0A]).afterFrames 2 3).isNone ∧ ∀ c < 3, ∀ j < 2,
      (((m.holding [0x0A]).afterFrames 2 c).bind fun begun => begun.afterSteps j).any
        (fun halted => (Fault.of? halted.step).isSome) →
      c = 1 ∧ j = 0 := by
    decide +kernel
  cases tells with
  | worked _ reached _ _ _ ends =>
    rcases ends with ⟨rfl, _⟩ | ⟨rfl | hundrawn, _⟩
    · cases (Option.isNone_iff_eq_none.1 halts).symm.trans reached
    · cases (Option.isNone_iff_eq_none.1 halts).symm.trans reached
    · exact absurd (fun h => nomatch h) hundrawn
  | @halted c j fault lt failed =>
    have reached : (((m.holding [0x0A]).afterFrames 2 c).bind fun begun => begun.afterSteps j) =
      some run.1.machine := failed.reached
    have hfault : Fault.of? run.1.machine.step = some fault :=
      congrArg Fault.of? (show run.1.machine.step = .error fault from failed.failed)
    obtain ⟨rfl, rfl⟩ := place c lt j failed.lt (by
      rw [reached, Option.any_some, hfault]
      rfl)
    obtain rfl : fault = .stackUnderflow 0x206 := Option.some.inj (hfault.symm.trans known)
    refine ⟨?_, List.getLast?_concat⟩
    decide +kernel

end ChipEight
