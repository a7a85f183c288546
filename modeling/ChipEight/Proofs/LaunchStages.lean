import ChipEight.Launch
import ChipEight.Proofs.HeldKeys
import ChipEight.Proofs.LoadedPrograms
import ChipEight.Proofs.TruncatedRuns

/-!
# The stages of a launch

Several things can be wrong with a launch at once. The keys to hold come before the path, the path
before what it leads to, and that before the run; the first of them that is wrong is the one
reported, and nothing of the later ones is looked at. Up to the run nothing is drawn and no random
word is asked for, so a launch that fails there does not depend on how the run would have been
driven. From then on what has been drawn stays written, however the run ends.
-/

namespace ChipEight

/-- A path that can be opened and read to the end, with the bytes found there. -/
def PathTarget.Delivers (t : PathTarget) (program : List UInt8) : Prop :=
  ∃ deliveries, t = .source deliveries ∧ Delivery.gather deliveries = .ok program

namespace Arguments

/-- All characters for the keys to hold have a key. -/
def Held (a : Arguments) : Prop := ∀ c ∈ a.hold.toList, ∃ k, KeyboardLayout.key? c = some k

/-- A stage before the run fails and none before that stage does. -/
inductive Stops (a : Arguments) (lookUp : String → PathTarget) : LaunchFailure → Prop where
  /-- The first character that has no key, whatever the path leads to. -/
  | unmapped {before after : List Char} {c : Char} (split : a.hold.toList = before ++ c :: after)
      (mapped : ∀ b ∈ before, ∃ k, KeyboardLayout.key? b = some k)
      (unmapped : KeyboardLayout.key? c = none) : a.Stops lookUp (.unmappedKey c)
  | unopenable {reason : String} (held : a.Held) (target : lookUp a.path = .unopenable reason) :
      a.Stops lookUp (.cannotOpen a.path reason)
  | unreadable {deliveries : List Delivery} {cause : Fault} (held : a.Held)
      (target : lookUp a.path = .source deliveries)
      (unreadable : Delivery.gather deliveries = .error cause) :
      a.Stops lookUp (.cannotLoad a.path cause)
  | tooLarge {program : List UInt8} (held : a.Held) (delivers : (lookUp a.path).Delivers program)
      (large : 3584 < program.length) :
      a.Stops lookUp (.cannotLoad a.path (.romTooLarge program.length 3584))

/-- No stage before the run fails. -/
structure Ready (a : Arguments) (lookUp : String → PathTarget) (keys : List UInt8)
    (program : List UInt8) : Prop where
  held : a.hold.toList.map KeyboardLayout.key? = keys.map some
  delivers : (lookUp a.path).Delivers program
  fits : program.length ≤ 3584

variable {a b : Arguments} {lookUp : String → PathTarget} {failure : LaunchFailure}
  {keys program : List UInt8}

theorem Held.exists_keys (h : a.Held) : ∃ keys, KeyboardLayout.keys a.hold.toList = .ok keys :=
  KeyboardLayout.exists_keys_iff.2 h

theorem prepare_of_stops (h : a.Stops lookUp failure) (entropy : RandomSource) :
    a.prepare lookUp entropy = .error failure := by
  cases h with
  | unmapped split mapped unmapped =>
    rw [prepare, KeyboardLayout.keys_eq_error_iff.2 ⟨_, _, split, mapped, unmapped⟩]
  | unopenable held target =>
    obtain ⟨keys, hkeys⟩ := held.exists_keys
    simp only [prepare, hkeys, target]
  | unreadable held target unreadable =>
    obtain ⟨keys, hkeys⟩ := held.exists_keys
    simp only [prepare, hkeys, target, Machine.loadFrom, unreadable]
  | tooLarge held delivers large =>
    obtain ⟨keys, hkeys⟩ := held.exists_keys
    obtain ⟨deliveries, target, gathered⟩ := delivers
    simp only [prepare, hkeys, target, Machine.loadFrom, gathered, Machine.load_eq,
      if_neg (Nat.not_le_of_lt large)]

theorem prepare_of_ready (h : a.Ready lookUp keys program) (entropy : RandomSource) :
    ∃ loaded, (a.machine entropy).reset.load program = .ok loaded ∧
      a.prepare lookUp entropy = .ok (a.settings keys, loaded) := by
  obtain ⟨held, ⟨deliveries, target, gathered⟩, fits⟩ := h
  have hload : (a.machine entropy).reset.load program =
      .ok ((a.machine entropy).reset.withProgram program) := by
    rw [Machine.load_eq, if_pos fits]
  refine ⟨_, hload, ?_⟩
  simp only [prepare, KeyboardLayout.keys_eq_ok_iff.2 held, target, Machine.loadFrom, gathered,
    hload]

/-- A launch comes to its run or a first stage before it fails. -/
theorem stops_or_ready (a : Arguments) (lookUp : String → PathTarget) :
    (∃ failure, a.Stops lookUp failure) ∨ ∃ keys program, a.Ready lookUp keys program := by
  cases hkeys : KeyboardLayout.keys a.hold.toList with
  | error c =>
    obtain ⟨before, after, split, mapped, unmapped⟩ := KeyboardLayout.keys_eq_error_iff.1 hkeys
    exact .inl ⟨_, .unmapped split mapped unmapped⟩
  | ok keys =>
    have held : a.Held := KeyboardLayout.exists_keys_iff.1 ⟨keys, hkeys⟩
    cases target : lookUp a.path with
    | unopenable reason => exact .inl ⟨_, .unopenable held target⟩
    | source deliveries =>
      cases gathered : Delivery.gather deliveries with
      | error cause => exact .inl ⟨_, .unreadable held target gathered⟩
      | ok program =>
        by_cases fits : program.length ≤ 3584
        · exact .inr ⟨keys, program, KeyboardLayout.keys_eq_ok_iff.1 hkeys,
            ⟨deliveries, target, gathered⟩, fits⟩
        · exact .inl ⟨_, .tooLarge held ⟨deliveries, target, gathered⟩ (Nat.lt_of_not_le fits)⟩

theorem Ready.not_stops (h : a.Ready lookUp keys program) (failure : LaunchFailure) :
    ¬ a.Stops lookUp failure := by
  intro hstops
  obtain ⟨loaded, -, hready⟩ := prepare_of_ready h (.ofList [])
  cases hready.symm.trans (prepare_of_stops hstops _)

/-- The stages before the run look at the characters for the keys and at the path only. -/
theorem Stops.congr (h : a.Stops lookUp failure) (hhold : b.hold = a.hold)
    (hpath : b.path = a.path) : b.Stops lookUp failure := by
  obtain ⟨path, _, _, _, hold, _, _, _⟩ := b
  dsimp only at hhold hpath
  subst hhold hpath
  cases h with
  | unmapped split mapped unmapped => exact .unmapped split mapped unmapped
  | unopenable held target => exact .unopenable held target
  | unreadable held target unreadable => exact .unreadable held target unreadable
  | tooLarge held delivers large => exact .tooLarge held delivers large

theorem launch_of_stops (h : a.Stops lookUp failure) (entropy : RandomSource) :
    a.launch lookUp entropy = ⟨1, .empty, failure.report⟩ := by
  rw [launch, prepare_of_stops h]

theorem launch_of_prepare {entropy : RandomSource} {settings : Settings} {loaded : Machine}
    (h : a.prepare lookUp entropy = .ok (settings, loaded)) :
    let run := (a.session loaded (.empty none)).run settings
    let report (cause : RunFailure) := (LaunchFailure.stopped cause).report
    a.launch lookUp entropy = ⟨if run.2 = none then 0 else 1, run.1.display.sink.written,
      settings.bells run.1.beeps ++ (run.2.map report).getD ""⟩ := by
  rw [launch, h]
  dsimp only
  cases ((a.session loaded (.empty none)).run settings).2 with
  | none => simp
  | some cause => simp

theorem Ready.toNat_lt (h : a.Ready lookUp keys program) : ∀ key ∈ keys, key.toNat < 16 := by
  intro key hkey
  obtain ⟨c, hc⟩ := KeyboardLayout.exists_key_of_keys (KeyboardLayout.keys_eq_ok_iff.2 h.held) hkey
  exact KeyboardLayout.toNat_key_lt hc

end Arguments

/-- The first stage of a launch that fails decides its outcome. Before the run the outcome is one
report with nothing written, the same for all arguments with that path and those characters for keys
and for all random words. A run takes place exactly when no stage before it fails, on a machine with
the random words of the seed, if there is one, that was reset and has the program in memory; what it
draws, the machines behind its frames up to its end or its fault, is what is written, and the status
tells which of the two it was. -/
theorem launch_by_stages (a : Arguments) (lookUp : String → PathTarget) (entropy : RandomSource) :
    (∀ failure, a.Stops lookUp failure →
      ∀ (b : Arguments) (words : RandomSource), b.hold = a.hold → b.path = a.path →
        b.prepare lookUp words = .error failure ∧
        b.launch lookUp words = ⟨1, .empty, failure.report⟩) ∧
    ((∃ keys program, a.Ready lookUp keys program) ↔ ∀ failure, ¬ a.Stops lookUp failure) ∧
    ∀ keys program, a.Ready lookUp keys program →
      let random : RandomSource := match a.seed with | some seed => .ofSeed seed | none => entropy
      ∃ loaded, (Machine.initial random).reset.load program = .ok loaded ∧
        let settings : Settings :=
          ⟨a.stepsPerTick, a.frames, keys, a.drawing, a.realtime, !a.quiet⟩
        let inPlace : Bool := a.drawing = .everyFrame
        let run := (Session.start loaded (.initial inPlace .reliable) (.empty none)).run settings
        let outcome := a.launch lookUp entropy
        outcome.output = run.1.display.sink.written ∧
        (run.2 = none → outcome.status = 0) ∧ (run.2 ≠ none → outcome.status = 1) ∧
        ∃ frames last fault,
          (loaded.holding keys).EndsAt a.stepsPerTick a.frames frames last fault ∧
          run.2 = fault.map .fault ∧
          outcome.output = Display.machinesBytes inPlace false
            (a.drawing.drawn ((loaded.holding keys).machinesIn a.stepsPerTick frames) last
              fault.isSome) := by
  refine ⟨?_, ?_, ?_⟩
  · intro failure hstops b words hhold hpath
    have hb := hstops.congr hhold hpath
    exact ⟨Arguments.prepare_of_stops hb words, Arguments.launch_of_stops hb words⟩
  · constructor
    · rintro ⟨keys, program, hready⟩
      exact hready.not_stops
    · intro hnever
      rcases a.stops_or_ready lookUp with ⟨failure, hstops⟩ | hready
      · exact absurd hstops (hnever failure)
      · exact hready
  · intro keys program hready random
    obtain ⟨loaded, hload, hprepare⟩ := Arguments.prepare_of_ready hready entropy
    refine ⟨loaded, hload, ?_⟩
    intro settings inPlace run outcome
    have hlaunch : outcome = _ := Arguments.launch_of_prepare hprepare
    have houtput : outcome.output = run.1.display.sink.written := congrArg Outcome.output hlaunch
    have hstatus : outcome.status = if run.2 = none then 0 else 1 :=
      congrArg Outcome.status hlaunch
    refine ⟨houtput, fun hrun => hstatus.trans (if_pos hrun),
      fun hrun => hstatus.trans (if_neg hrun), ?_⟩
    obtain ⟨frames, last, fault, hends⟩ :=
      (loaded.holding keys).exists_endsAt a.stepsPerTick a.frames
    have hfollows : Session.Follows
        ((Session.start loaded (.initial inPlace .reliable) (.empty none)).run settings) _ last
        frames _ fault :=
      Session.run_follows _ _ hready.toNat_lt hends
    obtain ⟨hrun, -, -, -, hsink⟩ := hfollows.of_holds rfl (Sink.holds_none _)
    refine ⟨frames, last, fault, hends, hrun, houtput.trans ?_⟩
    exact (congrArg Sink.written hsink).trans ByteArray.empty_append

/-- A key that does not exist and no program, no program, a program with a byte too many, and one
that returns from nowhere in its second frame, with its first frame drawn. -/
theorem launch_by_stages_failing :
    let a (hold : String) : Arguments := ⟨"rom", 2, 3, false, hold, some 7, .everyFrame, true⟩
    let launch (hold : String) (target : PathTarget) :=
      (a hold).launch (fun _ => target) (.ofList [])
    let reported (failure : LaunchFailure) : Outcome := ⟨1, .empty, failure.report⟩
    launch "1ß!" .missing = reported (.unmappedKey 'ß') ∧
    launch "1w" .missing =
      reported (.cannotOpen "rom" "No such file or directory (os error 2)") ∧
    launch "1w" (.file (List.replicate 3585 0)) =
      reported (.cannotLoad "rom" (.romTooLarge 3585 3584)) ∧
    (launch "1w" (.file [0xD0, 0x05, 0x70, 0x01, 0x00, 0xEE])).status = 1 ∧
    ∃ first last, (launch "1w" (.file [0xD0, 0x05, 0x70, 0x01, 0x00, 0xEE])).output =
      Display.machinesBytes true false [first, last] := by
  intro a launch reported
  have held : (a "1w").Held := KeyboardLayout.exists_keys_iff.1
    ⟨[0x1, 0x5], KeyboardLayout.keys_eq_ok_iff.2 (by decide)⟩
  have delivers (program : List UInt8) (h : program ≠ []) :
      (PathTarget.file program).Delivers program := by
    refine ⟨_, rfl, ?_⟩
    cases program with
    | nil => exact absurd rfl h
    | cons byte rest => exact congrArg Except.ok (List.append_nil _)
  have stops (hold : String) (target : PathTarget) (failure : LaunchFailure)
      (h : (a hold).Stops (fun _ => target) failure) : launch hold target = reported failure := by
    obtain ⟨refused, -⟩ := launch_by_stages (a hold) (fun _ => target) (.ofList [])
    exact (refused failure h (a hold) (.ofList []) rfl rfl).2
  refine ⟨stops _ _ _ ?_, stops _ _ _ (.unopenable held rfl), ?_, ?_⟩
  · have mapped : ∀ b ∈ ['1'], ∃ k, KeyboardLayout.key? b = some k :=
      KeyboardLayout.exists_keys_iff.1 ⟨[0x1], KeyboardLayout.keys_eq_ok_iff.2 (by decide)⟩
    have split : (a "1ß!").hold.toList = ['1'] ++ 'ß' :: ['!'] := by decide
    exact .unmapped split mapped (by decide)
  · have large := stops "1w" _ _ (.tooLarge held
      (delivers (List.replicate 3585 0) (List.ne_nil_of_length_pos (by
        rw [List.length_replicate]
        decide)))
      (by
        rw [List.length_replicate]
        decide))
    rwa [List.length_replicate] at large
  · have ready : (a "1w").Ready (fun _ => .file [0xD0, 0x05, 0x70, 0x01, 0x00, 0xEE]) [0x1, 0x5]
        [0xD0, 0x05, 0x70, 0x01, 0x00, 0xEE] :=
      ⟨by decide, delivers _ (by simp), by decide⟩
    obtain ⟨loaded, load, _, _, failed, frames, last, fault, ends, run, output⟩ :=
      (launch_by_stages (a "1w") (fun _ => .file [0xD0, 0x05, 0x70, 0x01, 0x00, 0xEE])
        (.ofList [])).2.2 _ _ ready
    have course : ((Machine.initial (.ofSeed 7)).reset.load
        [0xD0, 0x05, 0x70, 0x01, 0x00, 0xEE]).toOption.all fun loaded =>
          let held := loaded.holding [0x1, 0x5]
          decide ((held.afterFrames 2 3).isNone ∧ (held.machinesIn 2 1).length = 1 ∧
            ∀ f < 3, ∀ j < 2, ((held.afterFrames 2 f).bind fun begun => begun.afterSteps j).any
              (fun halted => (Fault.of? halted.step).isSome) → f = 1) := by decide +kernel
    rw [load] at course
    obtain ⟨halts, whole, place⟩ := of_decide_eq_true course
    cases fault with
    | none => cases (Option.isNone_iff_eq_none.1 halts).symm.trans ends.2
    | some cause =>
      obtain ⟨few, j, fails⟩ := ends
      obtain rfl : frames = 1 := by
        refine place frames few j fails.lt ?_
        rw [fails.reached, Option.any_some, fails.failed]
        rfl
      obtain ⟨first, one⟩ := List.length_eq_one_iff.1 whole
      have failed := failed (by rw [run]; nofun)
      refine ⟨failed, first, last, output.trans ?_⟩
      exact congrArg (fun ends => Display.machinesBytes true false (ends ++ [last])) one

end ChipEight
