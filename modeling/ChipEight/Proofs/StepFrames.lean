import ChipEight.Proofs.AwaitedKeys
import ChipEight.Proofs.RandomDraws
import ChipEight.Proofs.StepFaults
import ChipEight.Proofs.TimerHistories
import ChipEight.Proofs.UnreadMemory

/-!
# What a step leaves alone

Every part of a machine is changed by few instructions only. For each part a table says which these
are, and a step whose instruction is not in the table leaves the part as it was. Where the step goes
on is decided by its instruction too: behind it, unless it jumps, waits or skips. The six conditions
of skips come in pairs of opposites, and of the two skips of a pair exactly one skips.
-/

namespace ChipEight

/-- Whether an operation on two registers sets the flag register besides its result. -/
def Arithmetic.setsFlag : Arithmetic → Bool
  | .add | .subtract | .shiftRight | .subtractFrom | .shiftLeft => true
  | _ => false

def Condition.opposite : Condition → Condition
  | .equalsByte x k => .differsByte x k
  | .differsByte x k => .equalsByte x k
  | .equals x y => .differs x y
  | .differs x y => .equals x y
  | .pressed x => .released x
  | .released x => .pressed x

namespace Instruction

/-- Whether an instruction sets a register: as its own one, as one of those that it loads, or as the
flag register. -/
def setsRegister (i : Instruction) (r : Register) : Bool :=
  match i with
  | .load x _ | .addByte x _ | .random x _ | .readDelay x | .awaitKey x => r == x
  | .arithmetic op x _ => r == x || (op.setsFlag && r == flagRegister)
  | .draw _ _ _ => r == flagRegister
  | .loadThrough x => decide (r ≤ x)
  | _ => false

def setsIndex : Instruction → Bool
  | .setIndex _ | .advanceIndex _ | .pointAtGlyph _ | .storeThrough _ | .loadThrough _ => true
  | _ => false

def setsScreen : Instruction → Bool
  | .clear | .draw _ _ _ => true
  | _ => false

def calls : Instruction → Bool
  | .call _ => true
  | _ => false

/-- By how much an instruction makes the call stack deeper. -/
def depthChange : Instruction → Int
  | .ret => -1
  | .call _ => 1
  | _ => 0

end Instruction

namespace Machine

/-- The address at which a machine goes on behind an instruction, unless that is right behind it. -/
def target? (m : Machine) : Instruction → Option Nat
  | .ret => m.state.stack.toList.getLast?.map UInt16.toNat
  | .jump a | .call a => some a.val
  | .skip c => if c.holds m.keypad m.state then some (m.state.pc.toNat + 4) else none
  | .jumpFrom a => some ((m.state.register 0).toNat + a.val)
  | .awaitKey _ => if m.keypad.firstPressed? = none then some m.state.pc.toNat else none
  | _ => none

/-- What a step that carries out an instruction leaves alone, part by part, and where it goes on. -/
structure Frame (m : Machine) (i : Instruction) (n : Machine) : Prop where
  memory : ∀ a, ¬ Memory.Covers m.state.index.toNat i.bytesWritten a →
    n.state.memory.byteAt a = m.state.memory.byteAt a
  screen : i.setsScreen = false → n.state.screen = m.state.screen
  depth : (n.state.stack.depth : Int) = m.state.stack.depth + i.depthChange
  /-- A call writes the address behind it into the first free slot. -/
  slot : ∀ k (hk : k < 16), n.state.stack.slots[k] =
    if i.calls ∧ k = m.state.stack.depth then m.state.pc + 2 else m.state.stack.slots[k]
  timer : ∀ timer, i.timerSource? timer = none →
    n.state.timers.value timer = m.state.timers.value timer
  index : i.setsIndex = false → n.state.index = m.state.index
  register : ∀ r, i.setsRegister r = false → n.state.register r = m.state.register r
  random : i.draws = false → n.random = m.random
  keypad : n.keypad = m.keypad
  pc : n.state.pc.toNat = (m.target? i).getD (m.state.pc.toNat + 2)

end Machine

namespace State

variable (s : State) (keypad : Keypad)

theorem register_loaded_eq (x r : Register) :
    (s.loaded x).register r =
      ((s.memory.window s.index.toNat (x.val + 1))[r.val]?).getD (s.register r) := by
  rw [register, loaded, getElem_overlay, if_pos (Nat.zero_le r.val), Nat.sub_zero, register]

theorem register_loaded {x r : Register} (h : ¬ r ≤ x) :
    (s.loaded x).register r = s.register r := by
  have hbehind : (s.memory.window s.index.toNat (x.val + 1))[r.val]? = none := by
    rw [List.getElem?_eq_none_iff, Memory.length_window]
    exact Nat.lt_of_not_le h
  rw [register_loaded_eq, hbehind, Option.getD_none]

private theorem register_combine {op : Arithmetic} {x y r : Register} (hx : r ≠ x)
    (hflag : op.setsFlag = true → r ≠ flagRegister) :
    (s.combine op x y).register r = s.register r := by
  have own (value : UInt8) : (s.setRegister x value).register r = s.register r :=
    register_setRegister_of_ne hx value
  cases op with
  | copy | or | and | xor => exact own _
  | _ => exact (register_setFlag_of_ne (hflag rfl) _).trans (own _)

theorem toNat_index_advanceIndexBy {count : Nat} (hcount : 0 < count)
    (inside : s.index.toNat + count ≤ 4096) :
    (s.advanceIndexBy count).index.toNat = s.index.toNat + count := by
  rw [advanceIndexBy, UInt16.toNat_add, UInt16.toNat_ofNat']
  omega

private theorem register_awaitKey {x r : Register} (h : r ≠ x) :
    (s.awaitKey keypad x).register r = s.register r := by
  rw [awaitKey]
  split
  · exact register_setRegister_of_ne h _
  · rfl

end State

namespace Instruction

section Parts

variable (i : Instruction) (keypad : Keypad) (randomByte : UInt8) (s : State)

theorem effect_screen (h : i.setsScreen = false) :
    (i.effect keypad randomByte s).screen = s.screen := by
  cases i with
  | clear => cases h
  | draw x y n => cases h
  | ret => rw [effect_ret]
  | skip c => rw [effect_skip]
  | awaitKey x => rw [effect_awaitKey]
  | arithmetic op x y => rw [effect_arithmetic]
  | _ => rfl

theorem effect_index (h : i.setsIndex = false) :
    (i.effect keypad randomByte s).index = s.index := by
  cases i with
  | setIndex a => cases h
  | advanceIndex x => cases h
  | pointAtGlyph x => cases h
  | storeThrough x => cases h
  | loadThrough x => cases h
  | ret => rw [effect_ret]
  | skip c => rw [effect_skip]
  | awaitKey x => rw [effect_awaitKey]
  | arithmetic op x y => rw [effect_arithmetic]
  | _ => rfl

theorem effect_register {r : Register} (h : i.setsRegister r = false) :
    (i.effect keypad randomByte s).register r = s.register r := by
  have own {x : Register} (hx : (r == x) = false) (value : UInt8) :
      (s.setRegister x value).register r = s.register r :=
    State.register_setRegister_of_ne (beq_eq_false_iff_ne.1 hx) value
  cases i with
  | load x k | addByte x k | random x k | readDelay x => exact own h _
  | awaitKey x => exact s.register_awaitKey keypad (beq_eq_false_iff_ne.1 h)
  | arithmetic op x y =>
    simp only [setsRegister, Bool.or_eq_false_iff, Bool.and_eq_false_imp, beq_eq_false_iff_ne] at h
    exact s.register_combine h.1 h.2
  | draw x y n => exact State.register_setFlag_of_ne (beq_eq_false_iff_ne.1 h) _
  | loadThrough x => exact s.register_loaded (of_decide_eq_false h)
  | ret =>
    rw [effect_ret]
    rfl
  | skip c =>
    rw [effect_skip]
    rfl
  | _ => rfl

variable {i s}

theorem stackBehind_of_fault? (h : i.fault? s = none) :
    ((i.stackBehind s).depth : Int) = s.stack.depth + i.depthChange ∧
      ∀ k (hk : k < 16), (i.stackBehind s).slots[k] =
        if i.calls ∧ k = s.stack.depth then s.pc else s.stack.slots[k] := by
  cases i with
  | ret =>
    obtain ⟨a, stack, hpop⟩ := exists_pop?_of_fault? h
    obtain ⟨hdepth, hslots, _⟩ := CallStack.slots_pop? hpop
    have hbehind : ret.stackBehind s = stack := by rw [stackBehind, State.returned, hpop]
    have hchange : ret.depthChange = -1 := rfl
    rw [hbehind, hslots]
    exact ⟨by omega, fun k hk => by simp [calls]⟩
  | call a =>
    obtain ⟨stack, hpush⟩ := exists_push?_of_fault? h
    obtain ⟨_, hdepth, hslots⟩ := CallStack.slots_push? hpush
    have hbehind : (call a).stackBehind s = stack := by
      rw [stackBehind, State.called, hpush, Option.getD_some]
    have hchange : (call a).depthChange = 1 := rfl
    rw [hbehind]
    exact ⟨by omega, fun k hk => by simp [hslots k hk, calls]⟩
  | _ => exact ⟨(Int.add_zero _).symm, fun k hk => rfl⟩

end Parts

end Instruction

namespace Machine

variable {m : Machine} {i : Instruction}

theorem toNat_pc_carryOut (hi : m.state.instruction? = some i)
    (hfault : i.fault? m.state.fetched = none) :
    (m.carryOut i).state.pc.toNat = (m.target? i).getD (m.state.pc.toNat + 2) := by
  have hpc := toNat_pc_fetched hi
  have hfits := (State.nextWord_iff.1 (State.instruction?_eq_some_iff.1 hi)).1
  cases i with
  | ret =>
    obtain ⟨a, stack, hpop⟩ := Instruction.exists_pop?_of_fault? hfault
    have htop : m.state.stack.toList = stack.toList ++ [a] := CallStack.toList_pop? hpop
    rw [carryOut, Instruction.effect, State.returned, hpop, target?, htop, List.getLast?_concat,
      Option.map_some, Option.getD_some]
  | jump a | call a =>
    have := a.isLt
    exact UInt16.toNat_ofNat_of_lt' (by simp only [UInt16.size]; omega)
  | jumpFrom a =>
    have := a.isLt
    have := (m.state.fetched.register 0).toNat_lt
    exact UInt16.toNat_ofNat_of_lt' (by simp only [UInt16.size]; omega)
  | awaitKey x =>
    have hnext : (m.carryOut (.awaitKey x)).state = m.state.fetched.awaitKey m.keypad x := rfl
    rw [hnext, target?]
    cases hkey : m.keypad.firstPressed? with
    | none =>
      rw [State.awaitKey_fetched_of_none hkey, if_pos rfl, Option.getD_some]
    | some k =>
      rw [State.awaitKey, hkey, if_neg (by simp), Option.getD_none]
      exact hpc
  | skip c =>
    have hholds : c.holds m.keypad m.state.fetched = c.holds m.keypad m.state := by
      cases c <;> rfl
    rw [carryOut, Instruction.effect_skip, target?, hholds]
    split
    · simp only [UInt16.toNat_add, hpc, UInt16.reduceToNat, Option.getD_some]
      omega
    · exact hpc
  | arithmetic op x y =>
    rw [carryOut, Instruction.effect_arithmetic]
    exact hpc
  | _ => exact hpc

theorem frame_carryOut (hi : m.state.instruction? = some i)
    (hfault : i.fault? m.state.fetched = none) : m.Frame i (m.carryOut i) := by
  obtain ⟨hdepth, hslots⟩ := Instruction.stackBehind_of_fault? hfault
  rw [← Instruction.effect_stack i m.keypad m.random.nextByte] at hdepth hslots
  constructor
  case memory =>
    intro a ha
    rw [memory_carryOut]
    rw [← i.length_dataWritten m.state.fetched] at ha
    exact m.state.memory.byteAt_overlay_of_not_covers ha
  case screen => exact i.effect_screen m.keypad m.random.nextByte m.state.fetched
  case depth => exact hdepth
  case slot => exact hslots
  case timer =>
    intro timer htimer
    rw [carryOut, Instruction.effect_timers, Instruction.value_timersBehind, htimer]
    rfl
  case index => exact i.effect_index m.keypad m.random.nextByte m.state.fetched
  case register =>
    intro r hr
    exact i.effect_register m.keypad m.random.nextByte m.state.fetched hr
  case random =>
    intro hdraws
    rw [carryOut, Instruction.randomWords_eq, hdraws]
    rfl
  case keypad => rfl
  case pc => exact toNat_pc_carryOut hi hfault

end Machine

theorem Condition.holds_opposite (c : Condition) (keypad : Keypad) (s : State) :
    c.opposite.holds keypad s = !c.holds keypad s := by
  cases c with
  | equalsByte x k => rfl
  | differsByte x k => exact (Bool.not_not _).symm
  | equals x y => rfl
  | differs x y => exact (Bool.not_not _).symm
  | pressed x => rfl
  | released x => exact (Bool.not_not _).symm

/-- The frame of every step. A step that succeeds carries out the instruction whose word is at the
program counter, leaves alone every part of the machine that this instruction does not set, and goes
on where the instruction says. Of two skips with opposite conditions, carried out on the same state
with the same keypad, exactly one skips; a key above 15 skips where the key has to be released. -/
theorem frame_of_step :
    (∀ m n : Machine, m.step = .ok n → ∃ i, m.state.NextWord i.toWord ∧ m.Frame i n) ∧
    ∀ (s : State) (keypad : Keypad) (randomByte : UInt8),
      let skips (c : Condition) : Prop := (Instruction.skip c).execute keypad randomByte s =
        .ok { s with pc := s.pc + 2 }
      let stays (c : Condition) : Prop := (Instruction.skip c).execute keypad randomByte s = .ok s
      (∀ c, skips c ∧ stays c.opposite ∨ stays c ∧ skips c.opposite) ∧
      ∀ x, 15 < (s.register x).toNat → stays (.pressed x) ∧ skips (.released x) := by
  refine ⟨fun m n hstep => ?_, fun s keypad randomByte => ?_⟩
  · obtain ⟨hfault, i, hi, rfl⟩ := Machine.step_eq_ok_iff_carryOut.1 hstep
    rw [State.fault?_of_instruction hi] at hfault
    exact ⟨i, State.instruction?_eq_some_iff.1 hi, Machine.frame_carryOut hi hfault⟩
  · intro skips stays
    have skips_of {c : Condition} (h : c.holds keypad s = true) : skips c :=
      congrArg Except.ok (if_pos h)
    have stays_of {c : Condition} (h : c.holds keypad s = false) : stays c :=
      congrArg Except.ok (if_neg (Bool.eq_false_iff.1 h))
    refine ⟨fun c => ?_, fun x hx => ?_⟩
    · have hopposite := c.holds_opposite keypad s
      cases hholds : c.holds keypad s with
      | true => exact .inl ⟨skips_of hholds, stays_of (by rw [hopposite, hholds, Bool.not_true])⟩
      | false => exact .inr ⟨stays_of hholds, skips_of (by rw [hopposite, hholds, Bool.not_false])⟩
    · have hreleased : keypad.isPressed (s.register x) = false := dif_neg (Nat.not_lt.2 hx)
      exact ⟨stays_of hreleased, skips_of (by rw [Condition.holds, hreleased, Bool.not_false])⟩

/-- A machine that asks for key 16 while key 3 is pressed skips if the key has to be released, and
keeps its registers. -/
theorem frame_of_step_key :
    let m := ((Machine.initial (.ofList [])).performAll
      [.load [0x65, 0x10, 0xE5, 0xA1], .press 3 true, .step]).1
    let n := (m.perform .step).1
    m.step = .ok n ∧ m.state.NextWord (Instruction.skip (.released 5)).toWord ∧
    n.state.pc.toNat = 0x206 ∧ (∀ r, n.state.register r = m.state.register r) ∧
    15 < (m.state.register 5).toNat ∧
    (Instruction.skip (.pressed 5)).execute m.keypad 0 m.state = .ok m.state := by
  intro m n
  obtain ⟨hreply, hi, hpc, hregister⟩ : (m.perform .step).2.fault = none ∧
      m.state.instruction? = some (.skip (.released 5)) ∧ m.state.pc.toNat = 0x202 ∧
      m.state.register 5 = 16 := by
    decide +kernel
  have hstep : m.step = .ok n := Machine.step_eq_ok_of_reply hreply
  have hkey : 15 < (m.state.register 5).toNat := by
    rw [hregister]
    decide
  obtain ⟨frames, skips⟩ := frame_of_step
  obtain ⟨i, next, frame⟩ := frames m n hstep
  have hsame : i = .skip (.released 5) := by
    rw [← Option.some_inj, ← State.instruction?_eq_some_iff.2 next, hi]
  rw [hsame] at next frame
  refine ⟨hstep, next, ?_, fun r => frame.register r rfl, hkey, ?_⟩
  · rw [frame.pc, Machine.target?, Condition.holds, hregister, hpc]
    rfl
  · exact ((skips m.state m.keypad 0).2 5 hkey).1

end ChipEight
