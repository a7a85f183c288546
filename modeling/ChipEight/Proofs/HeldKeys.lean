import ChipEight.KeyboardLayout
import ChipEight.Proofs.FrameLengths
import ChipEight.Proofs.RunCourses
import ChipEight.Proofs.StepFaults

/-!
# Held keys

From the characters that name keys to hold to the end of the run that holds them. Characters are
read up to the first that has no key, and two characters have the same key exactly when they differ
at most in case. A run presses the keys once; steps, ticks and drawings leave the keypad alone, so
the keys stay pressed however the run ends, and only the set of them matters.
-/

namespace ChipEight

/-- A machine that a run passes: behind the pressing of the held keys, some whole frames and some
steps of the next one, of which none has failed. -/
inductive Session.Passes (s : Session) (settings : Settings) : Machine → Prop where
  | behind {ready begun reached : Session} {f j : Nat} (hf : f < settings.frames)
      (hj : j ≤ settings.stepsPerTick) (held : s.pressAll settings.heldKeys = (ready, none))
      (frames : ready.runFrames settings f = (begun, none))
      (steps : begun.steps j = (reached, none)) : s.Passes settings reached.machine

namespace KeyboardLayout

variable {c d : Char} {k : UInt8} {cs : List Char} {ks : List UInt8}

theorem key?_eq_some_iff : key? c = some k ↔ (c.toUpper, k) ∈ layout := by
  have lookup : ∀ p ∈ layout, layout.lookup p.1 = some p.2 := by decide
  refine ⟨fun h => ?_, lookup (c.toUpper, k)⟩
  obtain ⟨before, after, hlayout, _⟩ := List.lookup_eq_some_iff.1 h
  rw [hlayout]
  exact List.mem_append_right _ List.mem_cons_self

theorem toNat_key_lt (h : key? c = some k) : k.toNat < 16 := by
  have small : ∀ p ∈ layout, p.2.toNat < 16 := by decide
  exact small _ (key?_eq_some_iff.1 h)

theorem key?_eq_some_iff_toUpper (h : key? c = some k) :
    key? d = some k ↔ d.toUpper = c.toUpper := by
  have single : ∀ p ∈ layout, ∀ q ∈ layout, p.2 = q.2 → p.1 = q.1 := by decide
  refine ⟨fun hd => ?_, fun hd => ?_⟩
  · exact single _ (key?_eq_some_iff.1 hd) _ (key?_eq_some_iff.1 h) rfl
  · rwa [key?, hd]

theorem key?_of_not_ascii (h : 128 ≤ c.toNat) : key? c = none := by
  have ascii : ∀ p ∈ layout, p.1.toNat < 128 := by decide
  have hupper : c.toUpper = c := by
    refine dif_neg fun hletter => ?_
    have hle : c.toNat ≤ 'z'.toNat := UInt32.le_iff_toNat_le.1 hletter.2
    exact absurd (Nat.le_trans h hle) (by decide)
  rw [Option.eq_none_iff_forall_ne_some]
  intro k hk
  have hlt := ascii _ (key?_eq_some_iff.1 hk)
  dsimp only at hlt
  rw [hupper] at hlt
  omega

theorem keys_eq_ok_iff : keys cs = .ok ks ↔ cs.map key? = ks.map some := by
  induction cs generalizing ks with
  | nil => cases ks <;> simp [keys]
  | cons c rest ih =>
    rw [keys, List.map_cons]
    cases hkey : key? c with
    | none => cases ks <;> simp
    | some k =>
      cases ks with
      | nil => cases keys rest <;> simp [Except.map]
      | cons key ks =>
        rw [List.map_cons, List.cons.injEq, ← ih]
        cases keys rest <;> simp [Except.map]

/-- Reading stops at the first character that has no key. -/
theorem keys_eq_error_iff :
    keys cs = .error c ↔ ∃ before after, cs = before ++ c :: after ∧
      (∀ b ∈ before, ∃ k, key? b = some k) ∧ key? c = none := by
  induction cs with
  | nil => simp [keys]
  | cons first rest ih =>
    rw [keys]
    cases hfirst : key? first with
    | none =>
      constructor
      · rintro ⟨⟩
        exact ⟨[], rest, rfl, nofun, hfirst⟩
      · rintro ⟨before, after, hsplit, hbefore, -⟩
        cases before with
        | nil =>
          cases hsplit
          rfl
        | cons b before =>
          cases hsplit
          obtain ⟨k, hk⟩ := hbefore first List.mem_cons_self
          rw [hfirst] at hk
          cases hk
    | some k =>
      have hrest : (keys rest).map (k :: ·) = .error c ↔ keys rest = .error c := by
        cases keys rest <;> simp [Except.map]
      dsimp only
      rw [hrest, ih]
      constructor
      · rintro ⟨before, after, rfl, hbefore, hc⟩
        exact ⟨first :: before, after, rfl, List.forall_mem_cons.2 ⟨⟨k, hfirst⟩, hbefore⟩, hc⟩
      · rintro ⟨before, after, hsplit, hbefore, hc⟩
        cases before with
        | nil =>
          cases hsplit
          rw [hfirst] at hc
          cases hc
        | cons b before =>
          cases hsplit
          exact ⟨before, after, rfl, (List.forall_mem_cons.1 hbefore).2, hc⟩

theorem exists_keys_iff : (∃ ks, keys cs = .ok ks) ↔ ∀ c ∈ cs, ∃ k, key? c = some k := by
  induction cs with
  | nil => simp [keys]
  | cons c rest ih =>
    rw [List.forall_mem_cons, ← ih, keys]
    cases hkey : key? c with
    | none => simp
    | some k => cases keys rest <;> simp [Except.map]

theorem exists_key_of_keys (h : keys cs = .ok ks) (hk : k ∈ ks) : ∃ c, key? c = some k := by
  obtain ⟨c, -, hc⟩ := List.mem_map.1 (keys_eq_ok_iff.1 h ▸ List.mem_map_of_mem hk)
  exact ⟨c, hc⟩

end KeyboardLayout

namespace Keypad

variable {p : Keypad} {keys keys' : List UInt8}

theorem isPressed_holding (h : ∀ key ∈ keys, key.toNat < 16) (key : UInt8) :
    (p.holding keys).isPressed key = true ↔ p.isPressed key = true ∨ key ∈ keys := by
  rw [isPressed, isPressed]
  by_cases hkey : key.toNat < 16
  · simp [hkey, holding]
  · simp [hkey, mt (h key) hkey]

theorem holding_congr (h : ∀ key, key ∈ keys' ↔ key ∈ keys) : p.holding keys' = p.holding keys := by
  have hcontains (key : UInt8) : keys'.contains key = keys.contains key := by
    rw [Bool.eq_iff_iff, List.contains_iff_mem, List.contains_iff_mem, h]
  simp only [holding, hcontains]

end Keypad

namespace Session

variable {s : Session} {settings : Settings} {m : Machine} {display : Display} {journal : Journal}

theorem keypad_steps (s : Session) (n : Nat) :
    (s.steps n).1.machine.keypad = s.machine.keypad := by
  induction n generalizing s with
  | zero => rfl
  | succ n ih =>
    rw [steps]
    cases hstep : s.machine.step with
    | ok next => exact (ih _).trans (Machine.keypad_of_step hstep)
    | error fault => rfl

private theorem machine_stop (s : Session) (drawing : Drawing) (fault : Fault) :
    (s.stop drawing fault).1.machine = s.machine := by
  obtain ⟨display, failure, hstop, -⟩ := s.exists_stop drawing fault
  rw [hstop]
  rfl

private theorem keypad_frame (s : Session) (settings : Settings) :
    (s.frame settings).1.machine.keypad = s.machine.keypad := by
  have hsteps := s.keypad_steps settings.stepsPerTick
  rw [frame]
  generalize s.steps settings.stepsPerTick = stepped at hsteps ⊢
  obtain ⟨reached, fault⟩ := stepped
  have hticked : reached.tick.machine.keypad = s.machine.keypad := by
    rw [tick_eq]
    exact hsteps
  cases fault with
  | some fault =>
    dsimp only
    rwa [machine_stop]
  | none =>
    dsimp only
    split
    · exact hticked
    · exact hticked

private theorem keypad_runFrames (s : Session) (settings : Settings) (n : Nat) :
    (s.runFrames settings n).1.machine.keypad = s.machine.keypad := by
  induction n generalizing s with
  | zero => rfl
  | succ n ih =>
    have hframe := s.keypad_frame settings
    rw [runFrames]
    split
    · next hnext =>
      rw [hnext] at hframe
      exact (ih _).trans hframe
    · next hlast =>
      rwa [hlast] at hframe

/-- The held keys are pressed wherever a run passes. -/
theorem Passes.keypad_eq {passed : Machine} (hkeys : ∀ key ∈ settings.heldKeys, key.toNat < 16)
    (h : s.Passes settings passed) :
    passed.keypad = s.machine.keypad.holding settings.heldKeys := by
  cases h with
  | @behind ready begun reached f j _ _ held frames steps =>
    rw [pressAll_valid hkeys] at held
    cases held
    have hbegun := keypad_runFrames { s with machine := s.machine.holding settings.heldKeys }
      settings f
    have hreached := begun.keypad_steps j
    rw [frames] at hbegun
    rw [steps] at hreached
    exact hreached.trans hbegun

theorem keypad_run (s : Session) (hkeys : ∀ key ∈ settings.heldKeys, key.toNat < 16) :
    (s.run settings).1.machine.keypad = s.machine.keypad.holding settings.heldKeys := by
  have hworked := keypad_runFrames { s with machine := s.machine.holding settings.heldKeys }
    settings settings.frames
  rw [run_eq_work _ hkeys, work]
  split
  · next hlast =>
    rw [hlast] at hworked
    obtain ⟨display, failure, hfinish, -⟩ := exists_finish _ settings
    rwa [hfinish]
  · next hlast =>
    rwa [hlast] at hworked

theorem run_ne_invalidKey (hkeys : ∀ key ∈ settings.heldKeys, key.toNat < 16) (key : UInt8) :
    ((start m display journal).run settings).2 ≠ some (.fault (.invalidKey key)) := by
  intro hrun
  obtain ⟨frames, last, fault, hends⟩ :=
    (m.holding settings.heldKeys).exists_endsAt settings.stepsPerTick settings.frames
  have hfollows := run_follows display journal hkeys hends
  rcases hfollows.ends with ⟨hresult, -⟩ | ⟨cause, hcause⟩
  · have hfault := hrun.symm.trans hresult
    cases fault with
    | none => cases hfault
    | some cause =>
      cases hfault
      obtain ⟨-, j, hfails⟩ := hends
      cases State.fault?_eq_some_iff.1 (Machine.step_eq_error_iff.1 hfails.failed)
  · cases hrun.symm.trans hcause

theorem runFrames_heldKeys (s : Session) (settings : Settings) (keys : List UInt8) (n : Nat) :
    s.runFrames { settings with heldKeys := keys } n = s.runFrames settings n := by
  induction n generalizing s with
  | zero => rfl
  | succ n ih =>
    have hframe : s.frame { settings with heldKeys := keys } = s.frame settings := rfl
    rw [runFrames, runFrames, hframe]
    simp only [ih]

theorem run_heldKeys_congr {keys keys' : List UInt8} (hkeys : ∀ key ∈ keys, key.toNat < 16)
    (hsame : ∀ key, key ∈ keys' ↔ key ∈ keys) :
    (start m display journal).run { settings with heldKeys := keys' } =
      (start m display journal).run { settings with heldKeys := keys } := by
  have hkeys' : ∀ key ∈ keys', key.toNat < 16 := fun key hkey => hkeys key ((hsame key).1 hkey)
  have hholding : m.holding keys' = m.holding keys := by
    rw [Machine.holding, Keypad.holding_congr hsame, Machine.holding]
  rw [run_eq_work _ hkeys', run_eq_work _ hkeys, work, work]
  simp only [start, runFrames_heldKeys, hholding]
  rfl

end Session

/-- From the characters that name keys to the end of the run. They are read if all of them have a
key, and then as their keys in order, which the keypad has; otherwise the first that has none is
reported as it was written. Characters with the same key differ at most in case, and none outside
ASCII has one. A run that holds the keys never stops over a key; wherever it passes and where it
ends exactly these keys are pressed and those that were pressed before; and it is the same run for
all characters that name the same keys. -/
theorem held_keys_to_the_end (text : String) :
    ((∃ ks, KeyboardLayout.keys text.toList = .ok ks) ↔
      ∀ c ∈ text.toList, ∃ k, KeyboardLayout.key? c = some k) ∧
    (∀ c, KeyboardLayout.keys text.toList = .error c ↔
      ∃ before after, text.toList = before ++ c :: after ∧
        (∀ b ∈ before, ∃ k, KeyboardLayout.key? b = some k) ∧ KeyboardLayout.key? c = none) ∧
    (∀ c d k, KeyboardLayout.key? c = some k →
      (KeyboardLayout.key? d = some k ↔ d.toUpper = c.toUpper)) ∧
    (∀ c, 128 ≤ c.toNat → KeyboardLayout.key? c = none) ∧
    ∀ ks, KeyboardLayout.keys text.toList = .ok ks →
      text.toList.map KeyboardLayout.key? = ks.map some ∧
      (∀ k ∈ ks, k.toNat < 16) ∧
      ∀ (m : Machine) (settings : Settings) (display : Display) (journal : Journal),
        let start := Session.start m display journal
        let holding (held : List UInt8) : Settings := { settings with heldKeys := held }
        (∀ key, (start.run (holding ks)).2 ≠ some (.fault (.invalidKey key))) ∧
        (∀ passed, start.Passes (holding ks) passed ∨ passed = (start.run (holding ks)).1.machine →
          ∀ key, passed.keypad.isPressed key = true ↔ m.keypad.isPressed key = true ∨ key ∈ ks) ∧
        ∀ (text' : String) (ks' : List UInt8), KeyboardLayout.keys text'.toList = .ok ks' →
          (∀ key, key ∈ ks' ↔ key ∈ ks) → start.run (holding ks') = start.run (holding ks) := by
  refine ⟨KeyboardLayout.exists_keys_iff, fun _ => KeyboardLayout.keys_eq_error_iff,
    fun _ _ _ => KeyboardLayout.key?_eq_some_iff_toUpper,
    fun _ => KeyboardLayout.key?_of_not_ascii, ?_⟩
  intro ks hks
  have hkeys : ∀ k ∈ ks, k.toNat < 16 := by
    intro k hk
    obtain ⟨c, hc⟩ := KeyboardLayout.exists_key_of_keys hks hk
    exact KeyboardLayout.toNat_key_lt hc
  refine ⟨KeyboardLayout.keys_eq_ok_iff.1 hks, hkeys, ?_⟩
  intro m settings display journal start holding
  refine ⟨Session.run_ne_invalidKey hkeys, ?_, ?_⟩
  · intro passed hpassed key
    have hkeypad : passed.keypad = m.keypad.holding ks := by
      rcases hpassed with hpassed | rfl
      · exact Session.Passes.keypad_eq hkeys hpassed
      · exact Session.keypad_run _ hkeys
    rw [hkeypad, Keypad.isPressed_holding hkeys]
  · intro text' ks' _ hsame
    exact Session.run_heldKeys_congr hkeys hsame

/-- Keys 5 and 12 in two spellings, held by a program that waits for a key and counts then, with key
1 pressed before: one run, with the three keys pressed. -/
theorem held_keys_to_the_end_spelled :
    let counting := ((Machine.initial (.ofList [])).performAll
      [.press 0x1 true, .load [0xF0, 0x0A, 0x70, 0x01, 0x12, 0x02]]).1
    let start := Session.start counting (.initial true .reliable) (.empty none)
    let holding (held : List UInt8) : Settings := ⟨2, 3, held, .everyFrame, false, false⟩
    KeyboardLayout.keys "4wß".toList = .error 'ß' ∧
    KeyboardLayout.keys "4wW".toList = .ok [0xC, 0x5, 0x5] ∧
    start.run (holding [0x5, 0xC]) = start.run (holding [0xC, 0x5, 0x5]) ∧
    (start.run (holding [0xC, 0x5, 0x5])).1.machine.keypad.isPressed 0x1 = true ∧
    ∃ passed, start.Passes (holding [0xC, 0x5, 0x5]) passed ∧
      passed.keypad.isPressed 0x5 = true ∧ ¬ passed.keypad.isPressed 0x6 = true := by
  intro counting start holding
  have hread : KeyboardLayout.keys "4wW".toList = .ok [0xC, 0x5, 0x5] :=
    KeyboardLayout.keys_eq_ok_iff.2 (by decide)
  have hagain : KeyboardLayout.keys "W4".toList = .ok [0x5, 0xC] :=
    KeyboardLayout.keys_eq_ok_iff.2 (by decide)
  have hbeginning : KeyboardLayout.keys ['4', 'w'] = .ok [0xC, 0x5] :=
    KeyboardLayout.keys_eq_ok_iff.2 (by decide)
  have hunread := ((held_keys_to_the_end "4wß").2.1 'ß').2
    ⟨['4', 'w'], [], by decide, KeyboardLayout.exists_keys_iff.1 ⟨_, hbeginning⟩, by decide⟩
  obtain ⟨-, -, -, -, hruns⟩ := held_keys_to_the_end "4wW"
  obtain ⟨-, hvalid, hrun⟩ := hruns [0xC, 0x5, 0x5] hread
  obtain ⟨-, hpressed, hsame⟩ := hrun counting (holding []) (.initial true .reliable) (.empty none)
  have hbefore : counting.keypad.isPressed 0x1 = true ∧ counting.keypad.isPressed 0x6 = false ∧
      ((counting.holding [0xC, 0x5, 0x5]).afterSteps 1).isSome := by decide +kernel
  obtain ⟨hone, hsix, hsteps⟩ := hbefore
  obtain ⟨reached, hreached⟩ := Option.isSome_iff_exists.1 hsteps
  let ready : Session := { start with machine := start.machine.holding [0xC, 0x5, 0x5] }
  have hready : start.pressAll [0xC, 0x5, 0x5] = (ready, none) := Session.pressAll_valid hvalid
  have hbegun (s : Session) : s.runFrames (holding [0xC, 0x5, 0x5]) 0 = (s, none) := rfl
  have hpasses : start.Passes (holding [0xC, 0x5, 0x5]) reached :=
    .behind (by decide) (by decide) hready (hbegun ready)
      (Session.steps_of_afterSteps (s := ready) hreached)
  refine ⟨hunread, hread, hsame "W4" [0x5, 0xC] hagain (by simp [or_comm]), ?_, reached,
    hpasses, ?_, ?_⟩
  · exact (hpressed _ (.inr rfl) 0x1).2 (.inl hone)
  · exact (hpressed _ (.inl hpasses) 0x5).2 (.inr (by decide))
  · rw [hpressed _ (.inl hpasses) 0x6, hsix]
    decide

end ChipEight
