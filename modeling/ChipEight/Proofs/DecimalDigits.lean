import ChipEight.Proofs.StepFrames

/-!
# Decimal digits through memory

The hundreds, tens and ones of a register go to the three bytes at the index register, and loading
the first three registers from there gives them back, also when the register that was converted is
one of these three. Where not all three bytes lie inside memory, none of them is written.
-/

namespace ChipEight

/-- Three digits make up a byte. -/
structure MakesUp (hundreds tens ones : UInt8) (b : UInt8) : Prop where
  hundreds_le : hundreds.toNat ≤ 9
  tens_le : tens.toNat ≤ 9
  ones_le : ones.toNat ≤ 9
  sum_eq : 100 * hundreds.toNat + 10 * tens.toNat + ones.toNat = b.toNat

theorem decimalDigits_makesUp (b : UInt8) :
    ∃ h t o, decimalDigits b = [h, t, o] ∧ MakesUp h t o b := by
  have hb := b.toNat_lt
  have hhundreds : (b / 100).toNat = b.toNat / 100 := UInt8.toNat_div b 100
  have htens : (b / 10 % 10).toNat = b.toNat / 10 % 10 := by
    rw [UInt8.toNat_mod, UInt8.toNat_div]
    rfl
  have hones : (b % 10).toNat = b.toNat % 10 := UInt8.toNat_mod b 10
  refine ⟨b / 100, b / 10 % 10, b % 10, rfl, ?_, ?_, ?_, ?_⟩
  · omega
  · omega
  · omega
  · omega

namespace Instruction

variable {s : State} {x : Register} (keypad : Keypad) (randomByte : UInt8)

theorem execute_storeDigits (inside : s.index.toNat + 3 ≤ 4096) :
    (storeDigits x).execute keypad randomByte s =
      .ok (s.stored (decimalDigits (s.register x))) := by
  refine execute_eq_ok_iff.2 ⟨?_, rfl⟩
  exact if_pos (.inr inside)

theorem execute_storeDigits_of_outside (outside : 4096 < s.index.toNat + 3) :
    (storeDigits x).execute keypad randomByte s =
      .error (.outOfBounds (max s.index.toNat 4096)) := by
  have hfault : (storeDigits x).fault? s = some (.outOfBounds (max s.index.toNat 4096)) :=
    Memory.accessFault?_eq_some_iff.2 ⟨Nat.succ_pos 2, outside, rfl⟩
  rw [execute_eq, hfault]

end Instruction

theorem State.exists_loaded_three {s : State} {a b c : UInt8} (inside : s.index.toNat + 3 ≤ 4096)
    (hwindow : s.memory.window s.index.toNat 3 = [a, b, c]) (keypad : Keypad) (randomByte : UInt8) :
    ∃ loaded, (Instruction.loadThrough 2).execute keypad randomByte s = .ok loaded ∧
      loaded.register 0 = a ∧ loaded.register 1 = b ∧ loaded.register 2 = c ∧
      (∀ r, 2 < r → loaded.register r = s.register r) ∧
      loaded.index.toNat = s.index.toNat + 3 ∧ loaded.memory = s.memory := by
  have hregister (r : Register) :
      ((s.loaded 2).advanceIndexBy 3).register r = ([a, b, c][r.val]?).getD (s.register r) := by
    rw [← hwindow]
    exact s.register_loaded_eq 2 r
  refine ⟨_, Instruction.execute_eq_ok_iff.2 ⟨if_pos (.inr inside), rfl⟩, hregister 0, hregister 1,
    hregister 2, fun r hr => ?_, ?_, rfl⟩
  · refine (hregister r).trans ?_
    rw [List.getElem?_eq_none (Nat.succ_le_of_lt hr), Option.getD_none]
  · exact (s.loaded 2).toNat_index_advanceIndexBy (Nat.succ_pos 2) inside

/-- The digits of a register are exact and can be read back. With three bytes inside memory they are
stored there, and nothing else changes. Whatever happens to the rest of the state, a load of three
registers then gives the digits in order, whichever register was converted, leaves the others as
they were and moves the index register behind the digits. Without that room the conversion fails,
and a step that fails so leaves the machine as it was. -/
theorem decimal_digits_read_back (x : Register) :
    (∀ (s : State) (keypad : Keypad) (randomByte : UInt8),
      (s.index.toNat + 3 ≤ 4096 → ∃ h t o stored,
        (Instruction.storeDigits x).execute keypad randomByte s = .ok stored ∧
        MakesUp h t o (s.register x) ∧
        stored.memory.window s.index.toNat 3 = [h, t, o] ∧
        (∀ a, ¬ Memory.Covers s.index.toNat 3 a → stored.memory.byteAt a = s.memory.byteAt a) ∧
        stored = { s with memory := stored.memory } ∧
        ∀ later : State, later.registers = stored.registers → later.index = stored.index →
          later.memory = stored.memory → ∀ (keypad' : Keypad) (randomByte' : UInt8), ∃ loaded,
            (Instruction.loadThrough 2).execute keypad' randomByte' later = .ok loaded ∧
            loaded.register 0 = h ∧ loaded.register 1 = t ∧ loaded.register 2 = o ∧
            (∀ r, 2 < r → loaded.register r = s.register r) ∧
            loaded.index.toNat = s.index.toNat + 3 ∧ loaded.memory = stored.memory) ∧
      (4096 < s.index.toNat + 3 → (Instruction.storeDigits x).execute keypad randomByte s =
        .error (.outOfBounds (max s.index.toNat 4096)))) ∧
    ∀ m : Machine, m.state.NextWord (.ofRegisterByte 0xF x 0x33) →
      4096 < m.state.index.toNat + 3 →
      m.perform .step = (m, ⟨some (.outOfBounds (max m.state.index.toNat 4096)), false⟩) := by
  refine ⟨fun s keypad randomByte => ⟨fun inside => ?_, fun outside =>
    Instruction.execute_storeDigits_of_outside keypad randomByte outside⟩, fun m next outside => ?_⟩
  · obtain ⟨h, t, o, hdigits, makesUp⟩ := decimalDigits_makesUp (s.register x)
    have hstored := Instruction.execute_storeDigits (x := x) keypad randomByte inside
    rw [hdigits] at hstored
    have hfits : s.index.toNat + [h, t, o].length ≤ 4096 := inside
    have hwindow : (s.stored [h, t, o]).memory.window s.index.toNat 3 = [h, t, o] :=
      s.memory.window_overlay hfits
    have hothers (a : Nat) (ha : ¬ Memory.Covers s.index.toNat [h, t, o].length a) :
        (s.stored [h, t, o]).memory.byteAt a = s.memory.byteAt a :=
      s.memory.byteAt_overlay_of_not_covers ha
    refine ⟨h, t, o, _, hstored, makesUp, hwindow, hothers, rfl, ?_⟩
    intro later hregisters hindex hmemory keypad' randomByte'
    have hsame : later.index = s.index := hindex
    have hlater : later.memory.window later.index.toNat 3 = [h, t, o] := by
      rw [hmemory, hsame, hwindow]
    obtain ⟨loaded, hloaded, hh, ht, ho, hhigher, hbehind, hkept⟩ :=
      later.exists_loaded_three (by rwa [hsame]) hlater keypad' randomByte'
    refine ⟨loaded, hloaded, hh, ht, ho, fun r hr => ?_, ?_, hkept.trans hmemory⟩
    · rw [hhigher r hr, State.register, hregisters]
      rfl
    · rw [hbehind, hsame]
  · refine Machine.perform_step_of_fault (State.FailsWith.fault?_eq ?_)
    exact .storeDigits next outside

/-- Register 2 holds 254; its digits fill memory to its end, and loading them overwrites it. One
address further on there is no room for the last digit. -/
theorem decimal_digits_read_back_end :
    let s := ({ State.initial with index := 0xFFD }.setRegister 2 254).setRegister 3 9
    let m := ((Machine.initial (.ofList [])).performAll
      [.load [0xAF, 0xFE, 0xF2, 0x33], .step]).1
    s.index.toNat + 3 ≤ 4096 ∧
    (∃ stored loaded, (Instruction.storeDigits 2).execute .released 0 s = .ok stored ∧
      stored.memory.window 0xFFD 3 = [2, 5, 4] ∧ stored.memory.byteAt 0 = 0xF0 ∧
      (Instruction.loadThrough 2).execute .released 0 { stored with pc := 0x204 } = .ok loaded ∧
      loaded.register 2 = 4 ∧ loaded.register 3 = 9 ∧ loaded.index.toNat = 0x1000) ∧
    m.state.NextWord (.ofRegisterByte 0xF 2 0x33) ∧ 4096 < m.state.index.toNat + 3 ∧
    m.perform .step = (m, ⟨some (.outOfBounds 4096), false⟩) := by
  intro s m
  obtain ⟨digits, failing⟩ := decimal_digits_read_back 2
  obtain ⟨hinside, hvalue, hthree, hfirst⟩ : s.index.toNat + 3 ≤ 4096 ∧ s.register 2 = 254 ∧
      s.register 3 = 9 ∧ s.memory.byteAt 0 = 0xF0 := by
    decide +kernel
  obtain ⟨hnext, hindex⟩ : m.state.instruction? = some (.storeDigits 2) ∧
      m.state.index.toNat = 0xFFE := by
    decide +kernel
  have hword := State.instruction?_eq_some_iff.1 hnext
  have houtside : 4096 < m.state.index.toNat + 3 := by omega
  obtain ⟨h, t, o, stored, hstored, makesUp, hwindow, hother, hwith, load⟩ :=
    (digits s .released 0).1 hinside
  obtain ⟨loaded, hloaded, _, _, ho, hregister, hbehind, _⟩ :=
    load { stored with pc := 0x204 } rfl rfl rfl .released 0
  -- Of all digits only 2, 5 and 4 make up 254.
  have hdigits : h = 2 ∧ t = 5 ∧ o = 4 := by
    obtain ⟨hh, ht, ho, hsum⟩ := makesUp
    rw [hvalue] at hsum
    simp only [← UInt8.toNat_inj]
    simp only [UInt8.reduceToNat] at hsum ⊢
    omega
  obtain ⟨rfl, rfl, rfl⟩ := hdigits
  refine ⟨hinside, ⟨stored, loaded, hstored, hwindow, ?_, hloaded, ho, ?_, hbehind⟩, hword,
    houtside, ?_⟩
  · rw [hother 0 (by decide), hfirst]
  · rw [hregister 3 (by decide), hthree]
  · rw [failing m hword houtside, hindex]
    rfl

end ChipEight
