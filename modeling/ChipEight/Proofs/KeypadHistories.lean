import Mathlib.Data.List.Induction
import ChipEight.Proofs.AwaitedKeys
import ChipEight.Proofs.InstructionTable

/-!
# The keypad over whole histories

The keypad of a machine is what its host last said about each key: a key is pressed when the last
event of it that was accepted since the last reset was a press. No instruction, tick or program has
a part in it. An instruction that skips for a key skips by that word; a key that the keypad does not
have counts as released, and an event of it is refused.
-/

namespace ChipEight

namespace HostRequest

def isReset : HostRequest → Bool
  | .reset => true
  | _ => false

/-- What a request with a given answer says about a key, if it is an event of the key and was
accepted: whether the key goes down. -/
def word? (key : UInt8) : HostRequest × HostReply → Option Bool
  | (.press k down, reply) => if k = key ∧ reply.fault = none then some down else none
  | _ => none

/-- The last word on a key since the last reset. -/
def lastWord? (key : UInt8) (past : List (HostRequest × HostReply)) : Option Bool :=
  (past.reverse.takeWhile fun p => !p.1.isReset).findSome? (word? key)

/-- Whether a history leaves a key pressed: the keypad has the key and the last word on it was a
press. -/
def LeavesPressed (past : List (HostRequest × HostReply)) (key : UInt8) : Prop :=
  key.toNat < 16 ∧ lastWord? key past = some true

instance (past : List (HostRequest × HostReply)) (key : UInt8) :
    Decidable (LeavesPressed past key) :=
  inferInstanceAs (Decidable (_ ∧ _))

private theorem lastWord?_concat (key : UInt8) (past : List (HostRequest × HostReply))
    (p : HostRequest × HostReply) :
    lastWord? key (past ++ [p]) =
      if p.1.isReset then none else (word? key p).or (lastWord? key past) := by
  rw [lastWord?, List.reverse_append, List.reverse_singleton, List.singleton_append,
    List.takeWhile_cons]
  cases p.1.isReset with
  | true => rfl
  | false =>
    simp only [Bool.not_false, if_true, Bool.false_eq_true, if_false, List.findSome?_cons]
    cases word? key p <;> rfl

end HostRequest

namespace Keypad

variable {p : Keypad}

theorem isPressed_released (key : UInt8) : released.isPressed key = false := by
  rw [isPressed]
  split
  · exact Vector.getElem_replicate _
  · rfl

theorem set_eq_error_iff {key : UInt8} {down : Bool} {fault : Fault} :
    p.set key down = .error fault ↔ 15 < key.toNat ∧ fault = .invalidKey key := by
  rw [set]
  split
  · next h => simp; omega
  · next h => simp [eq_comm]; omega

theorem firstPressed?_eq_some_iff {k : Fin 16} :
    p.firstPressed? = some k ↔
      p.isPressed (UInt8.ofNat k.val) = true ∧
        ∀ key, p.isPressed key = true → UInt8.ofNat k.val ≤ key := by
  refine ⟨lowest_of_firstPressed?, fun ⟨hpressed, hlowest⟩ => ?_⟩
  cases hfirst : p.firstPressed? with
  | none =>
    rw [firstPressed?_eq_none_iff.1 hfirst] at hpressed
    cases hpressed
  | some first =>
    obtain ⟨hfirstPressed, hfirstLowest⟩ := lowest_of_firstPressed? hfirst
    have hsame := UInt8.le_antisymm (hfirstLowest _ hpressed) (hlowest _ hfirstPressed)
    rw [← UInt8.toNat_inj, toNat_ofNat_val, toNat_ofNat_val] at hsame
    rw [Fin.ext hsame]

end Keypad

namespace Machine

variable {m n : Machine}

/-- The requests of a history with their answers, the earliest first. -/
def answered (m : Machine) (requests : List HostRequest) : List (HostRequest × HostReply) :=
  requests.zip (m.performAll requests).2

private theorem answered_concat (m : Machine) (requests : List HostRequest) (r : HostRequest) :
    m.answered (requests ++ [r]) =
      m.answered requests ++ [(r, ((m.performAll requests).1.perform r).2)] := by
  rw [answered, performAll_append, List.zip_append (m.length_performAll requests).symm]
  rfl

theorem press_eq_error_iff {key : UInt8} {down : Bool} {fault : Fault} :
    m.press key down = .error fault ↔ 15 < key.toNat ∧ fault = .invalidKey key := by
  have hset : m.keypad.set key down = .error fault ↔ 15 < key.toNat ∧ fault = .invalidKey key :=
    Keypad.set_eq_error_iff
  rw [← hset, press]
  cases m.keypad.set key down with
  | ok keypad => simp [Except.map]
  | error cause => simp [Except.map]

theorem isPressed_perform (m : Machine) (r : HostRequest) (key : UInt8) :
    (m.perform r).1.keypad.isPressed key =
      if r.isReset then false
      else (HostRequest.word? key (r, (m.perform r).2)).getD (m.keypad.isPressed key) := by
  cases r with
  | reset => exact Keypad.isPressed_released key
  | press k down =>
    rw [perform, press]
    cases hset : m.keypad.set k down with
    | error fault => simp [settle, Except.map, HostRequest.isReset, HostRequest.word?]
    | ok keypad =>
      have hpressed := Keypad.isPressed_set hset key
      by_cases hkey : k = key
      · simp [settle, Except.map, HostRequest.isReset, HostRequest.word?, HostReply.done, hpressed,
          hkey]
      · simp [settle, Except.map, HostRequest.isReset, HostRequest.word?, hpressed, hkey,
          Ne.symm hkey]
  | load program =>
    rcases m.settle_cases (m.load program) with same | loaded
    · rw [perform, same]
      rfl
    · obtain ⟨memory, hnext⟩ := load_eq_ok loaded
      rw [perform, hnext]
      rfl
  | loadFrom source =>
    rcases m.settle_cases (m.loadFrom source) with same | loaded
    · rw [perform, same]
      rfl
    · obtain ⟨memory, hnext⟩ := loadFrom_eq_ok loaded
      rw [perform, hnext]
      rfl
  | step =>
    rcases m.settle_cases m.step with same | stepped
    · rw [perform, same]
      rfl
    · rw [perform, keypad_of_step stepped]
      rfl
  | tick => rfl

/-- A key of a keypad that starts released is pressed when the last word on it was a press. -/
theorem isPressed_performAll (hm : m.keypad = .released) (requests : List HostRequest)
    (key : UInt8) :
    (m.performAll requests).1.keypad.isPressed key =
      (HostRequest.lastWord? key (m.answered requests)).getD false := by
  induction requests using List.reverseRecOn with
  | nil =>
    rw [performAll, hm]
    exact Keypad.isPressed_released key
  | append_singleton requests r ih =>
    rw [performAll_concat, isPressed_perform, ih, answered_concat, HostRequest.lastWord?_concat]
    cases r.isReset with
    | true => rfl
    | false => exact Option.getD_or.symm

theorem step_of_skip {c : Condition} (h : m.state.instruction? = some (.skip c)) :
    ∃ pc : UInt16, m.step = .ok { m with state := { m.state with pc } } ∧
      pc.toNat = m.state.pc.toNat + if c.holds m.keypad m.state.fetched then 4 else 2 := by
  have hpc := toNat_pc_fetched h
  have hfits : m.state.pc.toNat + 2 ≤ 4096 :=
    (Option.ite_none_right_eq_some.1 (m.state.instruction?_eq.symm.trans h)).1
  have hfault : m.state.fault? = none := State.fault?_of_instruction h
  have hstep : m.step = .ok (m.carryOut (.skip c)) :=
    step_eq_ok_iff_carryOut.2 ⟨hfault, _, h, rfl⟩
  rw [hstep, carryOut, Instruction.effect_skip]
  refine ⟨_, rfl, ?_⟩
  split
  · simp only [UInt16.toNat_add, hpc, UInt16.reduceToNat]
    omega
  · exact hpc

end Machine

/-- The keypad is the host's last word on each key. Behind every history of a new machine a key is
pressed exactly when the keypad has it and the last event of it that was accepted since the last
reset was a press; the first pressed key is the least of these; an event is refused exactly when the
keypad does not have its key, and then changes nothing; and the next step, if it finds an
instruction that skips for a key, goes by that word. -/
theorem keypad_by_last_word (random : RandomSource) (requests : List HostRequest) :
    let past := (Machine.initial random).answered requests
    let now := ((Machine.initial random).performAll requests).1
    (∀ key, now.keypad.isPressed key = true ↔ HostRequest.LeavesPressed past key) ∧
    (∀ k, now.keypad.firstPressed? = some k ↔
      HostRequest.LeavesPressed past (UInt8.ofNat k.val) ∧
        ∀ key, HostRequest.LeavesPressed past key → UInt8.ofNat k.val ≤ key) ∧
    (now.keypad.firstPressed? = none ↔ ∀ key, ¬ HostRequest.LeavesPressed past key) ∧
    (∀ key down fault,
      now.press key down = .error fault ↔ 15 < key.toNat ∧ fault = .invalidKey key) ∧
    (∀ key down, 15 < key.toNat →
      now.perform (.press key down) = (now, ⟨some (.invalidKey key), false⟩)) ∧
    (∀ x, now.state.memory.wordAt now.state.pc.toNat = .ok (.ofRegisterByte 0xE x 0x9E) →
      ∃ pc : UInt16, now.step = .ok { now with state := { now.state with pc } } ∧
        pc.toNat = now.state.pc.toNat +
          if HostRequest.LeavesPressed past (now.state.register x) then 4 else 2) ∧
    (∀ x, now.state.memory.wordAt now.state.pc.toNat = .ok (.ofRegisterByte 0xE x 0xA1) →
      ∃ pc : UInt16, now.step = .ok { now with state := { now.state with pc } } ∧
        pc.toNat = now.state.pc.toNat +
          if HostRequest.LeavesPressed past (now.state.register x) then 2 else 4) := by
  intro past now
  have hpressed (key : UInt8) :
      now.keypad.isPressed key = true ↔ HostRequest.LeavesPressed past key := by
    have hword : now.keypad.isPressed key = (HostRequest.lastWord? key past).getD false :=
      Machine.isPressed_performAll rfl requests key
    have hgetD : (HostRequest.lastWord? key past).getD false = true ↔
        HostRequest.lastWord? key past = some true := by
      cases HostRequest.lastWord? key past <;> simp
    constructor
    · intro h
      exact ⟨Keypad.toNat_lt_of_isPressed h, hgetD.1 (hword.symm.trans h)⟩
    · rintro ⟨_, h⟩
      exact hword.trans (hgetD.2 h)
  have hskip {c : Condition} {w : Word} (hw : now.state.memory.wordAt now.state.pc.toNat = .ok w)
      (hc : Instruction.ofWord? w = some (.skip c)) :=
    Machine.step_of_skip ((State.instruction?_of_wordAt hw).trans hc)
  refine ⟨hpressed, ?_, ?_, fun _ _ _ => Machine.press_eq_error_iff, ?_, ?_, ?_⟩
  · intro k
    simp only [Keypad.firstPressed?_eq_some_iff, hpressed]
  · simp only [Keypad.firstPressed?_eq_none_iff, ← hpressed, Bool.not_eq_true]
  · intro key down hkey
    rw [Machine.perform, Machine.press_eq_error_iff.2 ⟨hkey, rfl⟩]
    rfl
  · intro x hw
    obtain ⟨pc, hstep, hpc⟩ := hskip hw (Instruction.ofWord?_toWord (.skip (.pressed x)))
    refine ⟨pc, hstep, hpc.trans ?_⟩
    simp only [← hpressed]
    rfl
  · intro x hw
    obtain ⟨pc, hstep, hpc⟩ := hskip hw (Instruction.ofWord?_toWord (.skip (.released x)))
    have hholds : (Condition.released x).holds now.keypad now.state.fetched =
        !now.keypad.isPressed (now.state.register x) := rfl
    refine ⟨pc, hstep, hpc.trans ?_⟩
    simp only [← hpressed, hholds]
    cases now.keypad.isPressed (now.state.register x) <;> rfl

/-- A reset releases key 3, and of the events after it those of key 7 and key 12 leave these
pressed, the release of key 5 is the last word on it and the event of key 23 is refused. A program
that asks for key 7 then skips. -/
theorem keypad_by_last_word_reset :
    let load := HostRequest.load [0x60, 0x07, 0xE0, 0x9E]
    let requests : List HostRequest :=
      [load, .press 3 true, .reset, load, .press 12 true, .press 5 true, .press 7 true,
        .press 23 true, .press 5 false, .step, .tick]
    let now := ((Machine.initial (.ofList [])).performAll requests).1
    now.state.memory.wordAt now.state.pc.toNat = .ok (.ofRegisterByte 0xE 0 0x9E) ∧
    now.keypad.isPressed 12 = true ∧ ¬ now.keypad.isPressed 3 = true ∧
    ¬ now.keypad.isPressed 5 = true ∧ ¬ now.keypad.isPressed 23 = true ∧
    now.keypad.firstPressed? = some 7 ∧ now.press 23 true = .error (.invalidKey 23) ∧
    ∃ next, now.step = .ok next ∧ next.state.pc.toNat = 0x206 := by
  intro load requests now
  let past := (Machine.initial (.ofList [])).answered requests
  obtain ⟨hpc, hcontents, hregister, hleft⟩ : now.state.pc.toNat = 0x202 ∧
      now.state.memory.word 0x202 = .ofRegisterByte 0xE 0 0x9E ∧ now.state.register 0 = 7 ∧
      ∀ k : Fin 256, HostRequest.LeavesPressed past (UInt8.ofNat k.val) ↔
        UInt8.ofNat k.val = 7 ∨ UInt8.ofNat k.val = 12 := by
    decide +kernel
  have left (key : UInt8) : HostRequest.LeavesPressed past key ↔ key = 7 ∨ key = 12 := by
    simpa only [UInt8.ofNat_toNat] using hleft ⟨key.toNat, key.toNat_lt⟩
  have hword : now.state.memory.wordAt now.state.pc.toNat = .ok (.ofRegisterByte 0xE 0 0x9E) := by
    rw [Memory.wordAt_eq, hpc, hcontents]
    rfl
  obtain ⟨byWord, first, _, refused, _, skips, _⟩ := keypad_by_last_word (.ofList []) requests
  have pressed (key : UInt8) : now.keypad.isPressed key = true ↔ key = 7 ∨ key = 12 :=
    (byWord key).trans (left key)
  have lowest : now.keypad.firstPressed? = some 7 := by
    refine (first 7).2 ⟨(left _).2 (by decide), fun key hkey => ?_⟩
    rcases (left key).1 hkey with rfl | rfl <;> decide
  obtain ⟨pc, hstep, hnext⟩ := skips 0 hword
  refine ⟨hword, (pressed 12).2 (by decide), (pressed 3).not.2 (by decide),
    (pressed 5).not.2 (by decide), (pressed 23).not.2 (by decide), lowest,
    (refused 23 true _).2 ⟨by decide, rfl⟩, _, hstep, hnext.trans ?_⟩
  rw [if_pos (by rw [hregister, left]; decide), hpc]

end ChipEight
