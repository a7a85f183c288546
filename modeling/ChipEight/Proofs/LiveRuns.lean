import ChipEight.LiveRun
import ChipEight.Proofs.LaunchStages
import ChipEight.Proofs.RunJournals

/-!
# What live runs do

A live launch is its outcome, spread over time. Whatever its actions mean, it takes certain actions
in order and then has the exit status of the launch. What they write on the output is the output of
the launch, what they write on the error stream are its bells and its report, and what they log is
its journal.
-/

namespace ChipEight

namespace Action

def output : Action → ByteArray
  | .write data => data
  | _ => .empty

def errorText : Action → String
  | .ring => "\x07"
  | .report text => text
  | _ => ""

def event? : Action → Option Event
  | .log e => some e
  | _ => none

/-- What some actions leave on the output, on the error stream and in the log. -/
structure Leave (actions : List Action) (written : ByteArray) (told : String)
    (logged : List Event) : Prop where
  written_eq : Sink.joined (actions.map output) = written
  told_eq : String.join (actions.map errorText) = told
  logged_eq : actions.filterMap event? = logged

end Action

/-- What a session has behind another one that it goes on from. -/
structure Session.Adds (s next : Session) (written : ByteArray) (logged : List Event)
    (beeps : Nat) : Prop where
  written_eq : next.display.sink.written = s.display.sink.written ++ written
  logged_eq : next.journal.entries.toList = s.journal.entries.toList ++ logged
  beeps_eq : next.beeps = s.beeps + beeps

private theorem Sink.joined_append (first second : List ByteArray) :
    joined (first ++ second) = joined first ++ joined second := by
  induction first with
  | nil => exact ByteArray.empty_append.symm
  | cons piece rest ih =>
    rw [List.cons_append, joined, List.foldr_cons, ← joined, ih, ← ByteArray.append_assoc]
    rfl

namespace Action

private theorem Leave.append {actions more : List Action} {written written' : ByteArray}
    {told told' : String} {logged logged' : List Event} (h : Leave actions written told logged)
    (h' : Leave more written' told' logged') :
    Leave (actions ++ more) (written ++ written') (told ++ told') (logged ++ logged') where
  written_eq := by rw [List.map_append, Sink.joined_append, h.written_eq, h'.written_eq]
  told_eq := by rw [List.map_append, String.join_append, h.told_eq, h'.told_eq]
  logged_eq := by rw [List.filterMap_append, h.logged_eq, h'.logged_eq]

private theorem leave_nil : Leave [] .empty "" [] :=
  ⟨rfl, rfl, rfl⟩

private theorem leave_write (data : ByteArray) : Leave [.write data] data "" [] :=
  ⟨ByteArray.append_empty, rfl, rfl⟩

private theorem leave_report (text : String) : Leave [.report text] .empty text [] :=
  ⟨rfl, String.empty_append, rfl⟩

private theorem leave_log (events : List Event) : Leave (events.map .log) .empty "" events := by
  induction events with
  | nil => exact leave_nil
  | cons e rest ih =>
    have hfirst : Leave [.log e] .empty "" [e] := ⟨rfl, rfl, rfl⟩
    exact hfirst.append ih

private theorem leave_ring (n : Nat) :
    Leave (List.replicate n .ring) .empty (String.ofList (List.replicate n '\x07')) [] := by
  induction n with
  | zero => exact leave_nil
  | succ n ih =>
    have hfirst : Leave [.ring] .empty (String.ofList ['\x07']) [] := ⟨rfl, rfl, rfl⟩
    have hboth := hfirst.append ih
    rwa [← String.ofList_append] at hboth

private theorem leave_wait (waits : Bool) : Leave (if waits then [.wait] else []) .empty "" [] := by
  cases waits <;> exact ⟨rfl, rfl, rfl⟩

end Action

namespace Session

variable {settings : Settings} {s next last : Session}
variable {written written' : ByteArray} {logged logged' : List Event} {beeps beeps' : Nat}

private theorem bells_add (settings : Settings) (a b : Nat) :
    settings.bells (a + b) = settings.bells a ++ settings.bells b := by
  rw [Settings.bells, Settings.bells, Settings.bells, ← String.ofList_append,
    List.replicate_append_replicate]
  split <;> rfl

private theorem Adds.refl (s : Session) : s.Adds s .empty [] 0 :=
  ⟨ByteArray.append_empty.symm, (List.append_nil _).symm, rfl⟩

private theorem Adds.trans (h : s.Adds next written logged beeps)
    (h' : next.Adds last written' logged' beeps') :
    s.Adds last (written ++ written') (logged ++ logged') (beeps + beeps') where
  written_eq := by rw [h'.written_eq, h.written_eq, ByteArray.append_assoc]
  logged_eq := by rw [h'.logged_eq, h.logged_eq, List.append_assoc]
  beeps_eq := by rw [h'.beeps_eq, h.beeps_eq, Nat.add_assoc]

private theorem leave_actionsSince (settings : Settings) (h : s.Adds next written logged beeps) :
    Action.Leave (next.actionsSince s.shown settings) written (settings.bells beeps) logged := by
  have hlogged : next.journal.entries.toList.drop s.journal.entries.size = logged := by
    rw [h.logged_eq]
    exact List.drop_left
  have hwritten : next.display.sink.written.extract s.display.sink.written.size
      next.display.sink.written.size = written := by
    rw [h.written_eq]
    exact ByteArray.extract_append_eq_right rfl ByteArray.size_append
  have hbeeps : next.beeps - s.beeps = beeps := by
    rw [h.beeps_eq, Nat.add_sub_cancel_left]
  rw [actionsSince, shown, hlogged, hwritten, hbeeps]
  simpa [Settings.bells] using ((Action.leave_log logged).append
    (Action.leave_ring (if settings.bell then beeps else 0))).append (Action.leave_write written)

private theorem adds_note (s : Session) (events : List Event) :
    s.Adds (s.note events) .empty (events.filter s.journal.keeps) 0 :=
  ⟨ByteArray.append_empty.symm, by simp [note, Journal.record], rfl⟩

private theorem exists_written_render (d : Display) (screen : Screen) :
    ∃ data, (d.render screen).1.sink.written = d.sink.written ++ data := by
  rw [Display.render_eq]
  dsimp only
  split <;> exact ⟨_, rfl⟩

private theorem exists_adds_draw (s : Session) : ∃ data, s.Adds s.draw.1 data [] 0 := by
  obtain ⟨data, hdata⟩ := exists_written_render s.display s.machine.state.screen
  exact ⟨data, hdata, (List.append_nil _).symm, rfl⟩

private theorem exists_adds_stop (s : Session) (drawing : Drawing) (fault : Fault) :
    ∃ data logged, s.Adds (s.stop drawing fault).1 data logged 0 := by
  have hnoted := s.adds_note [.stopped s.frames fault]
  obtain ⟨data, hdrawn⟩ := (s.note [.stopped s.frames fault]).exists_adds_draw
  rw [stop]
  split
  · exact ⟨_, _, hnoted⟩
  · split
    · next hdraw =>
      rw [hdraw] at hdrawn
      exact ⟨_, _, hnoted.trans hdrawn⟩
    · next hdraw =>
      rw [hdraw] at hdrawn
      exact ⟨_, _, hnoted.trans hdrawn⟩

private theorem exists_adds_finish (s : Session) (settings : Settings) :
    ∃ data, s.Adds (s.finish settings).1 data [] 0 := by
  rw [finish]
  split
  · exact s.exists_adds_draw
  · exact ⟨_, .refl s⟩

private theorem exists_adds_haltedAt (s : Session) (j : Nat) (halted : Machine) (fault : Fault) :
    ∃ logged, s.Adds (s.haltedAt j halted fault) .empty logged 0 := by
  obtain ⟨hwritten, hlogged, hbeeps⟩ :=
    s.adds_note (s.machine.stepsEvents j ++ halted.haltEvents fault)
  exact ⟨_, hwritten, hlogged, hbeeps⟩

private theorem exists_adds_behind {ended : Machine} {display : Display}
    {failure : Option SinkFailure}
    (shown : settings.drawing.renderFrame s.display ended.tick.state.screen = (display, failure)) :
    ∃ data logged beeps, s.Adds (s.behind settings ended display) data logged beeps := by
  obtain ⟨-, hlogged, -⟩ := s.adds_note (s.machine.stepsEvents settings.stepsPerTick ++
    if ended.beeps then [.beep s.frames] else [])
  rw [Drawing.renderFrame] at shown
  split at shown
  · obtain ⟨data, hdata⟩ := exists_written_render s.display ended.tick.state.screen
    rw [shown] at hdata
    exact ⟨data, _, _, hdata, hlogged, rfl⟩
  · cases shown
    exact ⟨.empty, _, _, ByteArray.append_empty.symm, hlogged, rfl⟩

/-- The frames of a live run are those of the run, with actions that show what they add. -/
private theorem Works.plays {n : Nat} {outcome : Session × Option RunFailure}
    (h : Works settings s n outcome) :
    ∃ written logged beeps actions, s.Adds outcome.1 written logged beeps ∧
      Action.Leave actions written (settings.bells beeps) logged ∧
      ∀ {m : Type → Type} [Monad m] [LawfulMonad m] (act : Action → m Unit),
        s.play settings act n = do
          actions.forM act
          return outcome := by
  induction h with
  | finished s =>
    obtain ⟨data, hadds⟩ := s.exists_adds_finish settings
    exact ⟨_, _, _, _, hadds, leave_actionsSince settings hadds, fun act => rfl⟩
  | @stopped s n j halted fault failed =>
    obtain ⟨halting, hhalted⟩ := s.exists_adds_haltedAt j halted fault
    obtain ⟨data, stopping, hstopped⟩ :=
      (s.haltedAt j halted fault).exists_adds_stop settings.drawing fault
    have hadds := hhalted.trans hstopped
    refine ⟨_, _, _, _, hadds, leave_actionsSince settings hadds, fun act => ?_⟩
    obtain ⟨display, failure, hstop, -⟩ :=
      (s.haltedAt j halted fault).exists_stop settings.drawing fault
    rw [play]
    simp only [frame_of_failsAt failed, hstop]
  | @undrawn s n ended display cause stepped shown =>
    obtain ⟨data, logged, beeps, hadds⟩ := exists_adds_behind shown
    refine ⟨_, _, _, _, hadds, leave_actionsSince settings hadds, fun act => ?_⟩
    rw [play]
    simp only [frame_of_afterSteps stepped, shown, Option.map_some]
  | @worked s n ended display outcome stepped shown rest ih =>
    obtain ⟨later, laterLogged, laterBeeps, actions, hlater, hleave, hplay⟩ := ih
    obtain ⟨data, logged, beeps, hadds⟩ := exists_adds_behind shown
    have hframe := ((leave_actionsSince settings hadds).append
      (Action.leave_wait settings.realtime)).append hleave
    rw [ByteArray.append_empty, String.append_empty, List.append_nil, ← bells_add] at hframe
    refine ⟨_, _, _, _, hadds.trans hlater, hframe, fun act => ?_⟩
    rw [play]
    simp only [frame_of_afterSteps stepped, shown, Option.map_none, hplay, List.forM_eq_forM,
      List.forM_append, bind_assoc]
    split <;> simp

/-- A live run from the pressing of its keys to its counts or to the report of how it failed. -/
private theorem playRun_of_valid (s : Session)
    (hkeys : ∀ key ∈ settings.heldKeys, key.toNat < 16) :
    let run := s.run settings
    let ended := run.1.note (if run.2 = none then [.finished run.1.frames run.1.beeps] else [])
    let report (cause : RunFailure) := (LaunchFailure.stopped cause).report
    ∃ written logged beeps actions, s.Adds ended written logged beeps ∧
      Action.Leave actions written (settings.bells beeps ++ (run.2.map report).getD "") logged ∧
      ∀ {m : Type → Type} [Monad m] [LawfulMonad m] (act : Action → m Unit),
        s.playRun settings act = do
          actions.forM act
          return if run.2 = none then 0 else 1 := by
  intro run
  let ready : Session := { s with machine := s.machine.holding settings.heldKeys }
  have hrun : run = ready.work settings settings.frames := s.run_eq_work hkeys
  obtain ⟨written, logged, beeps, actions, ⟨hwritten, hlogged, hbeeps⟩, hleave, hplay⟩ :=
    (ready.works_work settings settings.frames).plays
  rw [← hrun] at hwritten hlogged hbeeps hplay
  have hadds : s.Adds run.1 written logged beeps := ⟨hwritten, hlogged, hbeeps⟩
  have hnoted := hadds.trans (run.1.adds_note
    (if run.2 = none then [.finished run.1.frames run.1.beeps] else []))
  obtain ⟨last, failure⟩ := run
  cases failure with
  | none =>
    have hended := hleave.append (leave_actionsSince settings
      (last.adds_note [.finished last.frames last.beeps]))
    rw [← bells_add, ← @String.append_empty (settings.bells (beeps + 0))] at hended
    refine ⟨_, _, _, _, hnoted, hended, fun act => ?_⟩
    rw [playRun, pressAll_valid hkeys]
    dsimp only
    rw [hplay]
    simp [List.forM_eq_forM]
  | some cause =>
    have hended := hleave.append (Action.leave_report (LaunchFailure.stopped cause).report)
    refine ⟨_, _, _, _, hnoted, hended, fun act => ?_⟩
    rw [playRun, pressAll_valid hkeys]
    dsimp only
    rw [hplay]
    simp [List.forM_eq_forM]

private theorem run_journal_congr {m : Machine} {inPlace : Bool} (journal journal' : Journal)
    (hkeys : ∀ key ∈ settings.heldKeys, key.toNat < 16) :
    let run (journal : Journal) :=
      (start m (.initial inPlace .reliable) journal).run settings
    (run journal).2 = (run journal').2 ∧ (run journal).1.beeps = (run journal').1.beeps ∧
      (run journal).1.display.sink.written = (run journal').1.display.sink.written := by
  intro run
  obtain ⟨frames, last, fault, hends⟩ :=
    (m.holding settings.heldKeys).exists_endsAt settings.stepsPerTick settings.frames
  have follows (journal : Journal) : Follows (run journal) _ last frames _ fault :=
    run_follows _ _ hkeys hends
  obtain ⟨hresult, -, -, hbeeps, hsink⟩ := (follows journal).of_holds rfl (Sink.holds_none _)
  obtain ⟨hresult', -, -, hbeeps', hsink'⟩ := (follows journal').of_holds rfl (Sink.holds_none _)
  refine ⟨hresult.trans hresult'.symm, hbeeps.trans hbeeps'.symm, ?_⟩
  rw [hsink, hsink']

end Session

namespace Arguments

variable {a : Arguments} {lookUp : String → PathTarget} {entropy : RandomSource}

private theorem toNat_lt_of_prepare {settings : Settings} {machine : Machine}
    (h : a.prepare lookUp entropy = .ok (settings, machine)) :
    ∀ key ∈ settings.heldKeys, key.toNat < 16 := by
  rcases a.stops_or_ready lookUp with ⟨failure, hstops⟩ | ⟨keys, program, hready⟩
  · cases h.symm.trans (prepare_of_stops hstops entropy)
  · obtain ⟨loaded, -, hprepare⟩ := prepare_of_ready hready entropy
    cases h.symm.trans hprepare
    exact hready.toNat_lt

private theorem launch_of_prepare_journal {settings : Settings} {machine : Machine}
    (h : a.prepare lookUp entropy = .ok (settings, machine)) (journal : Journal) :
    let run := (a.session machine journal).run settings
    let report (cause : RunFailure) := (LaunchFailure.stopped cause).report
    a.launch lookUp entropy = ⟨if run.2 = none then 0 else 1, run.1.display.sink.written,
      settings.bells run.1.beeps ++ (run.2.map report).getD ""⟩ := by
  intro run
  let silent := (a.session machine (.empty none)).run settings
  obtain ⟨hresult, hbeeps, hwritten⟩ : run.2 = silent.2 ∧ run.1.beeps = silent.1.beeps ∧
      run.1.display.sink.written = silent.1.display.sink.written :=
    Session.run_journal_congr journal (.empty none) (toNat_lt_of_prepare h)
  rw [hresult, hbeeps, hwritten]
  exact launch_of_prepare h

private theorem journal_of_prepare {settings : Settings} {machine : Machine}
    (h : a.prepare lookUp entropy = .ok (settings, machine)) (threshold : Option Level) :
    let run := (a.session machine (a.stageJournal threshold lookUp entropy)).run settings
    a.journal threshold lookUp entropy =
      run.1.journal.record (if run.2 = none then [.finished run.1.frames run.1.beeps] else []) := by
  rw [journal, h]
  dsimp only
  generalize (a.session machine (a.stageJournal threshold lookUp entropy)).run settings = run
  obtain ⟨last, failure⟩ := run
  cases failure with
  | none => rfl
  | some cause => exact last.journal.record_nil.symm

/-- A live launch does what its outcome and its journal say, whatever its actions mean: there are
actions that it takes in order before it ends with the status of the outcome, and they write the
output, ring the bells before the report, and log the journal. -/
theorem play_eq_launch (a : Arguments) (threshold : Option Level) (lookUp : String → PathTarget)
    (entropy : RandomSource) :
    let outcome := a.launch lookUp entropy
    ∃ actions : List Action,
      Action.Leave actions outcome.output outcome.errors
        (a.journal threshold lookUp entropy).entries.toList ∧
      ∀ {m : Type → Type} [Monad m] [LawfulMonad m] (act : Action → m Unit),
        a.play threshold lookUp entropy act = do
          actions.forM act
          return outcome.status := by
  intro outcome
  let staged := a.stageJournal threshold lookUp entropy
  cases hprepare : a.prepare lookUp entropy with
  | error failure =>
    have hlaunch : outcome = ⟨1, .empty, failure.report⟩ := by
      dsimp only [outcome]
      rw [launch, hprepare]
    have hleave := (Action.leave_log staged.entries.toList).append
      (Action.leave_report failure.report)
    rw [ByteArray.append_empty, String.empty_append, List.append_nil] at hleave
    rw [hlaunch, journal, hprepare]
    refine ⟨_, hleave, fun act => ?_⟩
    simp [play, hprepare, staged, List.forM_eq_forM]
  | ok ready =>
    obtain ⟨settings, machine⟩ := ready
    let run := (a.session machine staged).run settings
    have hlaunch : outcome = _ := launch_of_prepare_journal hprepare staged
    obtain ⟨written, logged, beeps, actions, ⟨hwritten, hlogged, hbeeps⟩, hleave, hplay⟩ :=
      (a.session machine staged).playRun_of_valid (toNat_lt_of_prepare hprepare)
    replace hwritten : run.1.display.sink.written = written := hwritten.trans ByteArray.empty_append
    replace hbeeps : run.1.beeps = beeps := hbeeps.trans (Nat.zero_add beeps)
    replace hlogged : _ = staged.entries.toList ++ logged := hlogged
    have hall := (Action.leave_log staged.entries.toList).append hleave
    rw [ByteArray.empty_append, String.empty_append, ← hwritten, ← hbeeps, ← hlogged] at hall
    rw [hlaunch, journal_of_prepare hprepare]
    refine ⟨_, hall, fun act => ?_⟩
    rw [play, hprepare]
    simp [hplay, List.forM_eq_forM, staged]

end Arguments

/-- The same for every command: what is not a run writes its text and ends. -/
theorem CommandLine.play_eq_outcome (c : CommandLine) (threshold : Option Level)
    (lookUp : String → PathTarget) (entropy : RandomSource) :
    let outcome := c.outcome lookUp entropy
    ∃ actions logged, Action.Leave actions outcome.output outcome.errors logged ∧
      ∀ {m : Type → Type} [Monad m] [LawfulMonad m] (act : Action → m Unit),
        c.play threshold lookUp entropy act = do
          actions.forM act
          return outcome.status := by
  intro outcome
  have hleave := (Action.leave_write outcome.output).append (Action.leave_report outcome.errors)
  rw [ByteArray.append_empty, String.empty_append] at hleave
  cases c with
  | run a =>
    obtain ⟨actions, hrun, hplay⟩ := a.play_eq_launch threshold lookUp entropy
    exact ⟨actions, _, hrun, hplay⟩
  | _ => exact ⟨_, _, hleave, fun act => by simp [play, outcome, List.forM_eq_forM]⟩

namespace Arguments

variable {a : Arguments} {lookUp : String → PathTarget}

theorem journal_of_stops {failure : LaunchFailure} (h : a.Stops lookUp failure)
    (threshold : Option Level) (entropy : RandomSource) :
    a.journal threshold lookUp entropy = (Journal.empty threshold).record
      (match failure with
      | .cannotLoad _ _ => [.reset]
      | _ => []) := by
  rw [journal, prepare_of_stops h, stageJournal]
  cases h with
  | unmapped split mapped unmapped =>
    rw [KeyboardLayout.keys_eq_error_iff.2 ⟨_, _, split, mapped, unmapped⟩]
  | unopenable held target =>
    obtain ⟨keys, hkeys⟩ := held.exists_keys
    simp only [hkeys, target]
  | unreadable held target unreadable =>
    obtain ⟨keys, hkeys⟩ := held.exists_keys
    simp only [hkeys, target, Machine.events, Machine.loadFrom, unreadable]
    rfl
  | tooLarge held delivers large =>
    obtain ⟨keys, hkeys⟩ := held.exists_keys
    obtain ⟨deliveries, target, gathered⟩ := delivers
    simp only [hkeys, target, Machine.events, Machine.loadEvents, Machine.loadFrom, gathered,
      Machine.load_eq, if_neg (Nat.not_le_of_lt large)]
    rfl

private theorem stageJournal_of_ready {keys program : List UInt8}
    (h : a.Ready lookUp keys program) (threshold : Option Level) (entropy : RandomSource) :
    a.stageJournal threshold lookUp entropy =
      (Journal.empty threshold).record [.reset, .loaded program.length, .opened a.path] := by
  obtain ⟨held, ⟨deliveries, target, gathered⟩, fits⟩ := h
  simp only [stageJournal, KeyboardLayout.keys_eq_ok_iff.2 held, target, Machine.events,
    Machine.loadEvents, Machine.loadFrom, gathered, Machine.load_eq, if_pos fits]
  rfl

/-- The journal of a launch with a run begins with the loading and tells the run, and it ends with
the counts of the run if that did not fail. -/
theorem journal_of_ready {keys program : List UInt8} (h : a.Ready lookUp keys program)
    (threshold : Option Level) (entropy : RandomSource) :
    ∃ loaded, (a.machine entropy).reset.load program = .ok loaded ∧
      let settings := a.settings keys
      let begun := a.session loaded (a.stageJournal threshold lookUp entropy)
      let run := begun.run settings
      ∃ told,
        Session.Tells { begun with machine := loaded.holding keys } settings a.frames run told ∧
        a.journal threshold lookUp entropy = (Journal.empty threshold).record
          ([.reset, .loaded program.length, .opened a.path] ++ told ++
            if run.2 = none then [.finished run.1.frames run.1.beeps] else []) := by
  obtain ⟨loaded, hload, hprepare⟩ := prepare_of_ready h entropy
  refine ⟨loaded, hload, ?_⟩
  intro settings begun run
  have hrun : run = Session.work { begun with machine := loaded.holding keys } settings a.frames :=
    begun.run_eq_work h.toNat_lt
  obtain ⟨told, hjournal, htells⟩ :=
    (Session.works_work { begun with machine := loaded.holding keys } settings a.frames).tells
  rw [← hrun] at hjournal htells
  refine ⟨told, htells, ?_⟩
  have hstaged : run.1.journal = (a.stageJournal threshold lookUp entropy).record told := hjournal
  rw [journal_of_prepare hprepare, ← Journal.record_record, ← Journal.record_record,
    ← stageJournal_of_ready h, ← hstaged]

end Arguments
end ChipEight
