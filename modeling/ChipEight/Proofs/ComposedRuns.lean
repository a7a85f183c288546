import ChipEight.Proofs.FrameLengths
import ChipEight.Proofs.RunCourses

/-!
# Composed runs

A run can be cut between two frames. The second run presses the held keys again, which are still
pressed, and goes on with the same machine on the same display, which knows whether it has drawn; so
the two come to what one run of all the frames comes to. A run that draws only at its end is no such
run, since it would draw at the cut.
-/

namespace ChipEight

theorem Keypad.holding_holding (p : Keypad) (keys : List UInt8) :
    (p.holding keys).holding keys = p.holding keys := by
  apply Keypad.ext
  apply Vector.ext
  intro k hk
  simp [holding]

namespace Machine

variable {m mid last : Machine} {k n frames : Nat} {fault : Option Fault}

theorem keypad_afterSteps (h : m.afterSteps n = some last) : last.keypad = m.keypad := by
  induction n generalizing m with
  | zero =>
    cases h
    rfl
  | succ n ih =>
    rw [afterSteps] at h
    split at h
    · next hstep => exact (ih h).trans (keypad_of_step hstep)
    · cases h

theorem keypad_afterFrames (h : m.afterFrames k n = some last) : last.keypad = m.keypad := by
  induction n generalizing m with
  | zero =>
    cases h
    rfl
  | succ n ih =>
    obtain ⟨ended, hended, hrest⟩ := Option.bind_eq_some_iff.1 h
    have hticked : last.keypad = ended.tick.keypad := ih hrest
    have hended : ended.keypad = m.keypad := keypad_afterSteps hended
    exact hticked.trans hended

theorem holding_of_afterFrames {keys : List UInt8}
    (h : (m.holding keys).afterFrames k n = some last) : last.holding keys = last := by
  have hkeypad : last.keypad = m.keypad.holding keys := keypad_afterFrames h
  rw [holding, hkeypad, Keypad.holding_holding, ← hkeypad]

theorem afterFrames_add (m : Machine) (k a b : Nat) :
    m.afterFrames k (a + b) = (m.afterFrames k a).bind fun mid => mid.afterFrames k b := by
  induction a generalizing m with
  | zero => rw [Nat.zero_add, afterFrames, Option.bind_some]
  | succ a ih =>
    rw [Nat.add_right_comm, afterFrames, afterFrames, Option.bind_assoc]
    simp only [ih]

theorem afterFrames_behind {a : Nat} (h : m.afterFrames k a = some mid) (b : Nat) :
    m.afterFrames k (a + b) = mid.afterFrames k b := by
  rw [afterFrames_add, h, Option.bind_some]

theorem machinesIn_add {a : Nat} (h : m.afterFrames k a = some mid) (b : Nat) :
    m.machinesIn k (a + b) = m.machinesIn k a ++ mid.machinesIn k b := by
  rw [machinesIn, List.range_add, List.filterMap_append, List.filterMap_map]
  simp only [Function.comp_def, Nat.add_assoc, afterFrames_behind h]
  rfl

theorem beepsIn_add {a : Nat} (h : m.afterFrames k a = some mid) (b : Nat) :
    m.beepsIn k (a + b) = m.beepsIn k a + mid.beepsIn k b := by
  rw [beepsIn, List.range_add, List.countP_append, List.countP_map]
  simp only [Function.comp_def, beepsAt, afterFrames_behind h]
  rfl

theorem EndsAt.more {cause : Fault} (h : m.EndsAt k n frames last (some cause)) (b : Nat) :
    m.EndsAt k (n + b) frames last (some cause) :=
  ⟨Nat.lt_of_lt_of_le h.1 (Nat.le_add_right n b), h.2⟩

theorem EndsAt.behind {a : Nat} (h : m.afterFrames k a = some mid)
    (hends : mid.EndsAt k n frames last fault) : m.EndsAt k (a + n) (a + frames) last fault := by
  cases fault with
  | none =>
    obtain ⟨rfl, hlast⟩ := hends
    exact ⟨rfl, (afterFrames_behind h _).trans hlast⟩
  | some fault =>
    obtain ⟨hframes, j, hj, hreached, hfailed⟩ := hends
    refine ⟨Nat.add_lt_add_left hframes a, j, hj, ?_, hfailed⟩
    rw [afterFrames_behind h]
    exact hreached

end Machine

private theorem Drawing.drawn_append {drawing : Drawing} (h : drawing ≠ .atEnd)
    (ends more : List Machine)
    (mid last : Machine) (stopped : Bool) :
    drawing.drawn (ends ++ more) last stopped =
      drawing.drawn ends mid false ++ drawing.drawn more last stopped := by
  cases drawing with
  | never => rfl
  | atEnd => exact absurd rfl h
  | everyFrame => cases stopped <;> simp [drawn]

private theorem Display.renderAll_append (d : Display) (first second : List Machine) :
    d.renderAll (first ++ second) =
      match d.renderAll first with
      | (next, none) => next.renderAll second
      | (next, some undrawn) => (next, some undrawn) := by
  induction first generalizing d with
  | nil => rfl
  | cons m rest ih =>
    rw [List.cons_append, renderAll, renderAll]
    cases d.render m.state.screen with
    | mk next failure =>
      cases failure with
      | none => exact ih next
      | some failure => rfl

namespace Session

private theorem run_refused_or (s : Session) (settings : Settings) :
    (∃ refused fault, ∀ frames,
      s.run { settings with frames } = (refused, some (.fault fault))) ∨
    ∀ key ∈ settings.heldKeys, key.toNat < 16 := by
  cases hpress : s.pressAll settings.heldKeys with
  | mk pressed failure =>
    cases failure with
    | none => exact .inr (lt_of_pressAll hpress)
    | some fault =>
      refine .inl ⟨pressed, fault, fun frames => ?_⟩
      rw [run, hpress]

private theorem frames_follow {m last : Machine} {settings : Settings} {display : Display}
    {journal : Journal} {n frames : Nat} {fault : Option Fault}
    (hkeys : ∀ key ∈ settings.heldKeys, key.toNat < 16)
    (h : (m.holding settings.heldKeys).EndsAt settings.stepsPerTick n frames last fault) :
    Follows ((start m display journal).run { settings with frames := n })
      (display.renderAll (settings.drawing.drawn
        ((m.holding settings.heldKeys).machinesIn settings.stepsPerTick frames) last fault.isSome))
      last frames ((m.holding settings.heldKeys).beepsIn settings.stepsPerTick frames) fault := by
  have valid : ∀ key ∈ ({ settings with frames := n } : Settings).heldKeys, key.toNat < 16 := hkeys
  exact run_follows _ _ valid h

theorem Follows.agree {outcome outcome' : Session × Option RunFailure}
    {shown : Display × Option (Machine × SinkFailure)} {last : Machine}
    {frames beeps frames' beeps' : Nat} {fault : Option Fault}
    (h : Follows outcome shown last frames beeps fault)
    (h' : Follows outcome' shown last frames' beeps' fault) :
    outcome.2 = outcome'.2 ∧ outcome.1.machine = outcome'.1.machine ∧
      outcome.1.display = outcome'.1.display := by
  obtain ⟨display, undrawn⟩ := shown
  cases undrawn with
  | none =>
    obtain ⟨hends, hmachine, hdisplay, _⟩ := h
    obtain ⟨hends', hmachine', hdisplay', _⟩ := h'
    exact ⟨hends.trans hends'.symm, hmachine.trans hmachine'.symm, hdisplay.trans hdisplay'.symm⟩
  | some undrawn =>
    obtain ⟨hends, hmachine, hdisplay⟩ := h
    obtain ⟨hends', hmachine', hdisplay'⟩ := h'
    exact ⟨hends.trans hends'.symm, hmachine.trans hmachine'.symm, hdisplay.trans hdisplay'.symm⟩

/-- Where a part of a run draws more machines than another one, it fails as that one does or goes on
with the display that it leaves. -/
theorem Follows.append {first whole : Session × Option RunFailure} {d : Display}
    {ends more : List Machine} {mid last : Machine} {frames beeps frames' beeps' : Nat}
    {fault : Option Fault} (hfirst : Follows first (d.renderAll ends) mid frames beeps none)
    (hwhole : Follows whole (d.renderAll (ends ++ more)) last frames' beeps' fault) :
    (∃ failure, first.2 = some failure ∧ whole.2 = some failure ∧
      whole.1.machine = first.1.machine ∧ whole.1.display = first.1.display) ∨
    first.2 = none ∧ first.1.At mid first.1.display frames beeps ∧
      Follows whole (first.1.display.renderAll more) last frames' beeps' fault := by
  rw [Display.renderAll_append] at hwhole
  cases hshown : d.renderAll ends with
  | mk next undrawn =>
    rw [hshown] at hfirst hwhole
    cases undrawn with
    | some undrawn =>
      obtain ⟨hfails, hmachine, hdisplay⟩ := hfirst
      obtain ⟨hfails', hmachine', hdisplay'⟩ := hwhole
      exact .inl ⟨_, hfails, hfails', hmachine'.trans hmachine.symm,
        hdisplay'.trans hdisplay.symm⟩
    | none =>
      obtain ⟨hnone, hmachine, rfl, hframes, hbeeps⟩ := hfirst
      exact .inr ⟨hnone, ⟨hmachine, rfl, hframes, hbeeps⟩, hwhole⟩

private theorem Follows.counts {outcome : Session × Option RunFailure}
    {shown : Display × Option (Machine × SinkFailure)} {last : Machine} {frames beeps : Nat}
    {fault : Option Fault} (h : Follows outcome shown last frames beeps fault)
    (hnone : outcome.2 = none) : outcome.1.frames = frames ∧ outcome.1.beeps = beeps := by
  rcases h.ends with ⟨-, hat⟩ | ⟨cause, hcause⟩
  · exact ⟨hat.frames_eq, hat.beeps_eq⟩
  · cases hnone.symm.trans hcause

end Session

/-- A run that draws every frame or none can be cut between two frames. If its first part fails, the
whole run is that part. Otherwise the whole run ends as the second part does, with the same machine
and with the same display, so that the same bytes are written, and its frames and beeps are those of
the two parts together. -/
theorem runs_compose (m : Machine) (settings : Settings) (display : Display)
    (journal journal' : Journal) (a b : Nat) (hdrawing : settings.drawing ≠ .atEnd) :
    let run (m : Machine) (display : Display) (journal : Journal) (frames : Nat) :=
      (Session.start m display journal).run { settings with frames }
    let whole := run m display journal (a + b)
    let first := run m display journal a
    (∀ failure, first.2 = some failure →
      whole.2 = some failure ∧ whole.1.machine = first.1.machine ∧
        whole.1.display = first.1.display) ∧
    (first.2 = none →
      let second := run first.1.machine first.1.display journal' b
      whole.2 = second.2 ∧ whole.1.machine = second.1.machine ∧
        whole.1.display = second.1.display ∧
        (whole.2 = none → whole.1.frames = first.1.frames + second.1.frames ∧
          whole.1.beeps = first.1.beeps + second.1.beeps)) := by
  intro run whole first
  rcases (Session.start m display journal).run_refused_or settings with
    ⟨refused, fault, hrefused⟩ | hkeys
  · have hfirst : first = (refused, some (.fault fault)) := hrefused a
    have hwhole : whole = (refused, some (.fault fault)) := hrefused (a + b)
    rw [hfirst, hwhole]
    exact ⟨fun failure hfailure => ⟨hfailure, rfl, rfl⟩, fun hnone => nomatch hnone⟩
  let k := settings.stepsPerTick
  obtain ⟨frames, mid, fault, hends⟩ := (m.holding settings.heldKeys).exists_endsAt k a
  have hfirst : Session.Follows first _ mid frames _ fault := Session.frames_follow hkeys hends
  cases fault with
  | some cause =>
    have hwhole : Session.Follows whole _ mid frames _ (some cause) :=
      Session.frames_follow hkeys (hends.more b)
    obtain ⟨hresult, hmachine, hdisplay⟩ := hwhole.agree hfirst
    refine ⟨fun _ hfails => ⟨hresult.trans hfails, hmachine, hdisplay⟩, fun hnone => ?_⟩
    rcases hfirst.ends with ⟨hfails, -⟩ | ⟨_, hfails⟩
    · cases hnone.symm.trans hfails
    · cases hnone.symm.trans hfails
  | none =>
    obtain ⟨rfl, hmid⟩ := hends
    obtain ⟨later, last, fault, hrest⟩ := mid.exists_endsAt k b
    have hwhole : Session.Follows whole _ last (frames + later) _ fault :=
      Session.frames_follow hkeys (hrest.behind hmid)
    rw [Machine.machinesIn_add hmid, Machine.beepsIn_add hmid,
      Drawing.drawn_append hdrawing _ _ mid] at hwhole
    rcases hfirst.append hwhole with ⟨failure, hfails, hfails', hsame⟩ | ⟨hnone, hat, hgoesOn⟩
    · refine ⟨fun cause hcause => ⟨?_, hsame⟩, fun hnone => nomatch hfails.symm.trans hnone⟩
      exact hfails'.trans (hfails.symm.trans hcause)
    · refine ⟨fun _ hfails => (nomatch hnone.symm.trans hfails), fun _ => ?_⟩
      intro second
      have hheld : mid.holding settings.heldKeys = mid := Machine.holding_of_afterFrames hmid
      have hsecond : Session.Follows second
          (first.1.display.renderAll
            (settings.drawing.drawn (mid.machinesIn k later) last fault.isSome))
          last later (mid.beepsIn k later) fault := by
        rw [← hheld] at hrest
        dsimp only [second]
        rw [hat.machine_eq]
        simpa only [hheld] using Session.frames_follow hkeys hrest
      obtain ⟨hresult, hmachine, hdisplay⟩ := hgoesOn.agree hsecond
      refine ⟨hresult, hmachine, hdisplay, fun hfinished => ?_⟩
      obtain ⟨hframes, hbeeps⟩ := hgoesOn.counts hfinished
      obtain ⟨hframes', hbeeps'⟩ := hsecond.counts (hresult.symm.trans hfinished)
      rw [hframes, hbeeps, hat.frames_eq, hat.beeps_eq, hframes', hbeeps']
      exact ⟨rfl, rfl⟩

/-- A program that sets the sound timer and stays: a run of three frames that draws every frame, cut
behind the first of them, beeps once, in its second part. -/
theorem runs_compose_beep :
    let m := ((Machine.initial (.ofList [])).performAll
      [.load [0x60, 0x02, 0xF0, 0x18, 0x12, 0x04]]).1
    let settings : Settings := ⟨3, 0, [0x0A], .everyFrame, false, false⟩
    let run (m : Machine) (display : Display) (frames : Nat) :=
      (Session.start m display (.empty none)).run { settings with frames }
    let whole := run m (.initial true .reliable) 3
    let first := run m (.initial true .reliable) 1
    let second := run first.1.machine first.1.display 2
    settings.drawing ≠ .atEnd ∧ first.2 = none ∧ whole.2 = none ∧
      whole.1.display = second.1.display ∧ whole.1.frames = first.1.frames + second.1.frames ∧
      whole.1.beeps = first.1.beeps + second.1.beeps ∧ whole.1.beeps = 1 ∧ first.1.beeps = 0 := by
  intro m settings run whole first second
  have drawn : settings.drawing ≠ .atEnd := by decide
  have valid : ∀ key ∈ settings.heldKeys, key.toNat < 16 := by simp [settings]
  have reliable : (Display.initial true .reliable).Reliable := ⟨rfl, rfl⟩
  have works : ((m.holding [0x0A]).afterFrames 3 1).isSome ∧
      ((m.holding [0x0A]).afterFrames 3 3).isSome ∧
      (m.holding [0x0A]).beepsIn 3 1 = 0 ∧ (m.holding [0x0A]).beepsIn 3 3 = 1 := by decide +kernel
  obtain ⟨worksFirst, worksWhole, silent, beeps⟩ := works
  have counted (n : Nat) (hworks : ((m.holding [0x0A]).afterFrames 3 n).isSome) :
      (run m (.initial true .reliable) n).2 = none ∧
        (run m (.initial true .reliable) n).1.beeps = (m.holding [0x0A]).beepsIn 3 n := by
    obtain ⟨last, hlast⟩ := Option.isSome_iff_exists.1 hworks
    have valid' : ∀ key ∈ ({ settings with frames := n } : Settings).heldKeys, key.toNat < 16 :=
      valid
    obtain ⟨ended, hrun⟩ := Session.run_ok reliable (.empty none) valid' hlast
    have hends : (m.holding settings.heldKeys).EndsAt settings.stepsPerTick n n last none :=
      ⟨rfl, hlast⟩
    have hfollows : Session.Follows (run m (.initial true .reliable) n) _ last n _ none :=
      Session.frames_follow valid hends
    have hnone : (run m (.initial true .reliable) n).2 = none := congrArg Prod.snd hrun
    exact ⟨hnone, (hfollows.counts hnone).2⟩
  obtain ⟨finishedFirst, countedFirst⟩ := counted 1 worksFirst
  obtain ⟨finishedWhole, countedWhole⟩ := counted 3 worksWhole
  obtain ⟨_, _, shown, sums⟩ := (runs_compose m settings (.initial true .reliable) (.empty none)
    (.empty none) 1 2 drawn).2 finishedFirst
  obtain ⟨frames, beeped⟩ := sums finishedWhole
  exact ⟨drawn, finishedFirst, finishedWhole, shown, frames, beeped, countedWhole.trans beeps,
    countedFirst.trans silent⟩

end ChipEight
