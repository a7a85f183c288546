import ChipEight.Proofs.StepFaults

/-!
# Arithmetic of registers

The operations on two registers as laws of integers. Sums, differences and shifted bytes leave a
byte and a flag, and the flag is just what the byte lost: with it the result is exact. The operands
may be one register, and either may be the flag register; the flag is written last, so it is then
all that is left. Nothing but the result and the flag is written.
-/

namespace ChipEight

/-- Two bytes give a value and a flag: the flag is set under a condition on the bytes, and the four
of them obey a law. -/
def Arithmetic.Obeys (op : Arithmetic) (sets : Nat → Nat → Prop)
    (law : Int → Int → Int → Int → Prop) : Prop :=
  ∀ a b : UInt8, ∃ (value : UInt8) (flag : Bool), op.result a b = (value, some flag) ∧
    (flag = true ↔ sets a.toNat b.toNat) ∧ law a.toNat b.toNat value.toNat flag.toNat

namespace Machine

/-- A step from one machine to another that moves the program counter on and writes some registers
at most. -/
structure StepWrites (m n : Machine) (written : List Register) : Prop where
  step_eq : m.step = .ok n
  rest_eq : n = { m with
    state := { m.state with registers := n.state.registers, pc := m.state.pc + 2 } }
  register_eq : ∀ r, r ∉ written → n.state.register r = m.state.register r

/-- A word of family 8 with this last digit makes the machine write a result and a flag: the flag is
set under a condition on the operands, and where the flag does not take the place of the result, the
operands, the result and the flag obey a law. -/
def WritesFlagged (m : Machine) (x y : Register) (digit : Fin 16) (sets : Nat → Nat → Prop)
    (law : Int → Int → Int → Int → Prop) : Prop :=
  m.state.NextWord (.ofDigits 0x8 x y digit) → ∃ n, m.StepWrites n [x, flagRegister] ∧
    let a := (m.state.register x).toNat
    let b := (m.state.register y).toNat
    let flag := (n.state.register flagRegister).toNat
    (flag = 0 ∨ flag = 1) ∧ (flag = 1 ↔ sets a b) ∧
      (x ≠ flagRegister → law a b (n.state.register x).toNat flag)

def WritesOnly (m : Machine) (w : Word) (x : Register) (value : Nat) : Prop :=
  m.state.NextWord w → ∃ n, m.StepWrites n [x] ∧ (n.state.register x).toNat = value

end Machine

namespace Arithmetic

theorem add_obeys :
    add.Obeys (fun a b => 255 < a + b) (fun a b value flag => value + 256 * flag = a + b) := by
  intro a b
  have ha := a.toNat_lt
  have hb := b.toNat_lt
  refine ⟨a + b, decide (255 < a.toNat + b.toNat), rfl, decide_eq_true_iff, ?_⟩
  rw [UInt8.toNat_add]
  by_cases hcarry : 255 < a.toNat + b.toNat
  · simp only [hcarry, decide_true, Bool.toNat_true]
    omega
  · simp only [hcarry, decide_false, Bool.toNat_false]
    omega

theorem sub_add_borrow (a b : UInt8) :
    ((a - b).toNat : Int) = a.toNat - b.toNat + 256 * (1 - (decide (b.toNat ≤ a.toNat)).toNat) := by
  have ha := a.toNat_lt
  have hb := b.toNat_lt
  rw [UInt8.toNat_sub]
  by_cases hle : b.toNat ≤ a.toNat
  · simp only [hle, decide_true, Bool.toNat_true]
    omega
  · simp only [hle, decide_false, Bool.toNat_false]
    omega

theorem subtract_obeys :
    subtract.Obeys (fun a b => b ≤ a) (fun a b value flag => value = a - b + 256 * (1 - flag)) :=
  fun a b => ⟨a - b, decide (b.toNat ≤ a.toNat), rfl, decide_eq_true_iff, sub_add_borrow a b⟩

theorem subtractFrom_obeys :
    subtractFrom.Obeys (fun a b => a ≤ b)
      (fun a b value flag => value = b - a + 256 * (1 - flag)) :=
  fun a b => ⟨b - a, decide (a.toNat ≤ b.toNat), rfl, decide_eq_true_iff, sub_add_borrow b a⟩

theorem shiftRight_obeys :
    shiftRight.Obeys (fun _ b => b % 2 = 1) (fun _ b value flag => 2 * value + flag = b) := by
  intro a b
  refine ⟨b >>> 1, b.toNat % 2 == 1, rfl, beq_iff_eq, ?_⟩
  have hvalue : (b >>> 1).toNat = b.toNat / 2 := by
    rw [UInt8.toNat_shiftRight, Nat.shiftRight_eq_div_pow]
    rfl
  rw [hvalue]
  rcases Nat.mod_two_eq_zero_or_one b.toNat with hbit | hbit
  · simp only [hbit, Nat.reduceBEq, Bool.toNat_false]
    omega
  · simp only [hbit, Nat.reduceBEq, Bool.toNat_true]
    omega

theorem shiftLeft_obeys :
    shiftLeft.Obeys (fun _ b => 128 ≤ b) (fun _ b value flag => value + 256 * flag = 2 * b) := by
  intro a b
  have hb := b.toNat_lt
  refine ⟨b <<< 1, decide (128 ≤ b.toNat), rfl, decide_eq_true_iff, ?_⟩
  have hvalue : (b <<< 1).toNat = b.toNat * 2 % 256 := by
    rw [UInt8.toNat_shiftLeft, Nat.shiftLeft_eq]
    rfl
  rw [hvalue]
  by_cases hbit : 128 ≤ b.toNat
  · simp only [hbit, decide_true, Bool.toNat_true]
    omega
  · simp only [hbit, decide_false, Bool.toNat_false]
    omega

end Arithmetic

namespace Machine

variable {m : Machine} {x y : Register}

private theorem stepWrites_of_execute {i : Instruction} {t : State} {written : List Register}
    (next : m.state.NextWord i.toWord) (hwords : i.randomWords = 0)
    (hexecute : i.execute m.keypad m.random.nextByte m.state.fetched = .ok t)
    (hrest : t = { m.state.fetched with registers := t.registers })
    (hkept : ∀ r, r ∉ written → t.register r = m.state.register r) :
    m.StepWrites { m with state := t } written := by
  obtain ⟨hfits, hword⟩ := State.nextWord_iff.1 next
  have hinstruction : (m.state.memory.word m.state.pc.toNat).instruction = .ok i := by
    rw [Word.instruction, hword, Instruction.ofWord?_toWord]
  refine ⟨step_eq_ok_iff.2 ⟨hfits, i, t, hinstruction, hexecute, ?_⟩, ?_, hkept⟩
  · rw [hwords]
    rfl
  · exact congrArg (fun state => { m with state }) hrest

/-- An operation that obeys a law writes its result, and behind it the flag. -/
private theorem writesFlagged_of_obeys {op : Arithmetic} {sets : Nat → Nat → Prop}
    {law : Int → Int → Int → Int → Prop} (h : op.Obeys sets law) (m : Machine) (x y : Register) :
    m.WritesFlagged x y op.selector sets law := by
  intro next
  obtain ⟨value, flag, hresult, hsets, hlaw⟩ := h (m.state.register x) (m.state.register y)
  have hcombine : m.state.fetched.combine op x y =
      (m.state.fetched.setRegister x value).setFlag flag := by
    have hfetched : op.result (m.state.fetched.register x) (m.state.fetched.register y) =
        (value, some flag) := hresult
    rw [State.combine, hfetched]
  refine ⟨_, stepWrites_of_execute (i := .arithmetic op x y) next rfl
    (congrArg Except.ok hcombine) rfl fun r hr => ?_, ?_⟩
  · obtain ⟨hx, hflag⟩ : r ≠ x ∧ r ≠ flagRegister := by simpa using hr
    rw [State.register_setFlag_of_ne hflag, State.register_setRegister_of_ne hx]
    rfl
  · dsimp only
    rw [State.toNat_register_setFlag, ← hsets]
    refine ⟨?_, ?_, fun hx => ?_⟩
    · cases flag <;> simp
    · cases flag <;> simp
    · rw [State.register_setFlag_of_ne hx, State.register_setRegister_self]
      exact hlaw

private theorem writesOnly_of_execute {i : Instruction} {value : UInt8} (hwords : i.randomWords = 0)
    (hexecute : i.execute m.keypad m.random.nextByte m.state.fetched =
      .ok (m.state.fetched.setRegister x value)) : m.WritesOnly i.toWord x value.toNat := by
  intro next
  refine ⟨_, stepWrites_of_execute next hwords hexecute rfl fun r hr => ?_, ?_⟩
  · exact State.register_setRegister_of_ne (by simpa using hr) value
  · rw [State.register_setRegister_self]

end Machine

/-- The arithmetic of registers is exact. Whatever registers an instruction names, two times the
same or the flag register among them, the flag says whether a sum or a shift to the left left the
byte, whether a difference needed no borrow, or which bit a shift to the right dropped; and unless
the flag takes the place of the result, the two of them make up the sum, the difference or the
shifted byte. The other operations and the addition of a byte, which is modulo 256, write their
result only. -/
theorem register_arithmetic_exact (m : Machine) (x y : Register) :
    let a := (m.state.register x).toNat
    let b := (m.state.register y).toNat
    m.WritesFlagged x y 0x4 (fun a b => 255 < a + b)
      (fun a b value flag => value + 256 * flag = a + b) ∧
    m.WritesFlagged x y 0x5 (fun a b => b ≤ a)
      (fun a b value flag => value = a - b + 256 * (1 - flag)) ∧
    m.WritesFlagged x y 0x7 (fun a b => a ≤ b)
      (fun a b value flag => value = b - a + 256 * (1 - flag)) ∧
    m.WritesFlagged x y 0x6 (fun _ b => b % 2 = 1)
      (fun _ b value flag => 2 * value + flag = b) ∧
    m.WritesFlagged x y 0xE (fun _ b => 128 ≤ b)
      (fun _ b value flag => value + 256 * flag = 2 * b) ∧
    m.WritesOnly (.ofDigits 0x8 x y 0x0) x b ∧
    m.WritesOnly (.ofDigits 0x8 x y 0x1) x (a ||| b) ∧
    m.WritesOnly (.ofDigits 0x8 x y 0x2) x (a &&& b) ∧
    m.WritesOnly (.ofDigits 0x8 x y 0x3) x (a ^^^ b) ∧
    ∀ k, m.WritesOnly (.ofRegisterByte 0x7 x k) x ((a + k.toNat) % 256) := by
  intro a b
  refine ⟨Machine.writesFlagged_of_obeys Arithmetic.add_obeys m x y,
    Machine.writesFlagged_of_obeys Arithmetic.subtract_obeys m x y,
    Machine.writesFlagged_of_obeys Arithmetic.subtractFrom_obeys m x y,
    Machine.writesFlagged_of_obeys Arithmetic.shiftRight_obeys m x y,
    Machine.writesFlagged_of_obeys Arithmetic.shiftLeft_obeys m x y, ?_, ?_, ?_, ?_, ?_⟩
  · exact Machine.writesOnly_of_execute (i := .arithmetic .copy x y) rfl rfl
  · rw [← UInt8.toNat_or]
    exact Machine.writesOnly_of_execute (i := .arithmetic .or x y) rfl rfl
  · rw [← UInt8.toNat_and]
    exact Machine.writesOnly_of_execute (i := .arithmetic .and x y) rfl rfl
  · rw [← UInt8.toNat_xor]
    exact Machine.writesOnly_of_execute (i := .arithmetic .xor x y) rfl rfl
  · intro k
    rw [← UInt8.toNat_add]
    exact Machine.writesOnly_of_execute (i := .addByte x k) rfl rfl

/-- The flag register as the second operand: 0 − 5 borrows, so the flag is cleared, which makes 251
exact. -/
theorem register_arithmetic_exact_aliased :
    let m := ((Machine.initial (.ofList [])).performAll [.load [0x6F, 0x05, 0x80, 0xF5], .step]).1
    m.state.register 0 = 0 ∧ m.state.register 0xF = 5 ∧
    ∃ n, m.step = .ok n ∧ n.state.register 0 = 251 ∧ n.state.register 0xF = 0 := by
  intro m
  obtain ⟨hzero, hfive, hnext⟩ : m.state.register 0 = 0 ∧ m.state.register 0xF = 5 ∧
      m.state.pc.toNat + 2 ≤ 4096 ∧
      m.state.memory.word m.state.pc.toNat = .ofDigits 0x8 0 0xF 0x5 := by decide +kernel
  obtain ⟨-, subtracts, -⟩ := register_arithmetic_exact m 0 0xF
  obtain ⟨n, hn, hbit, hflag, hlaw⟩ := subtracts (State.nextWord_iff.2 hnext)
  rw [hzero, hfive] at hflag hlaw
  have hcleared : (n.state.register flagRegister).toNat = 0 :=
    hbit.resolve_right (mt hflag.1 (by decide))
  have hresult := hlaw (by decide)
  rw [hcleared] at hresult
  exact ⟨hzero, hfive, n, hn.step_eq, UInt8.toNat_inj.1 (Int.ofNat.inj hresult),
    UInt8.toNat_inj.1 hcleared⟩

end ChipEight
