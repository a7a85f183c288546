import ChipEight.Fault

/-!
# The instruction table in both directions

A word that is put together from some fields has those fields. So an instruction is read off its own
word, and the word that an instruction is read off is its own: the table gives no word to two
instructions, and reading a word gives nothing exactly when no instruction has it.
-/

namespace ChipEight

namespace Word

section Fields

variable (f x y n : Fin 16) (a : Address) (k : UInt8)

theorem toNat_ofAddress : (ofAddress f a).toNat = 4096 * f.val + a.val := by
  rw [ofAddress, toNat_ofNat]
  omega

theorem toNat_ofRegisterByte :
    (ofRegisterByte f x k).toNat = 4096 * f.val + 256 * x.val + k.toNat := by
  have := k.toNat_lt
  rw [ofRegisterByte, toNat_ofNat]
  omega

theorem toNat_ofDigits :
    (ofDigits f x y n).toNat = 4096 * f.val + 256 * x.val + 16 * y.val + n.val := by
  rw [ofDigits, toNat_ofNat]
  omega

@[simp] theorem family_ofAddress : (ofAddress f a).family = f := by
  apply Fin.ext
  simp only [family, Fin.val_ofNat, toNat_ofAddress]
  omega

@[simp] theorem address_ofAddress : (ofAddress f a).address = a := by
  apply Fin.ext
  simp only [address, Fin.val_ofNat, toNat_ofAddress]
  omega

@[simp] theorem family_ofRegisterByte : (ofRegisterByte f x k).family = f := by
  have := k.toNat_lt
  apply Fin.ext
  simp only [family, Fin.val_ofNat, toNat_ofRegisterByte]
  omega

@[simp] theorem x_ofRegisterByte : (ofRegisterByte f x k).x = x := by
  have := k.toNat_lt
  apply Fin.ext
  simp only [Word.x, Fin.val_ofNat, toNat_ofRegisterByte]
  omega

@[simp] theorem lowByte_ofRegisterByte : (ofRegisterByte f x k).lowByte = k := by
  have := k.toNat_lt
  apply UInt8.toNat_inj.1
  simp only [lowByte, UInt8.toNat_ofNat', toNat_ofRegisterByte]
  omega

@[simp] theorem family_ofDigits : (ofDigits f x y n).family = f := by
  apply Fin.ext
  simp only [family, Fin.val_ofNat, toNat_ofDigits]
  omega

@[simp] theorem x_ofDigits : (ofDigits f x y n).x = x := by
  apply Fin.ext
  simp only [Word.x, Fin.val_ofNat, toNat_ofDigits]
  omega

@[simp] theorem y_ofDigits : (ofDigits f x y n).y = y := by
  apply Fin.ext
  simp only [Word.y, Fin.val_ofNat, toNat_ofDigits]
  omega

@[simp] theorem n_ofDigits : (ofDigits f x y n).n = n := by
  apply Fin.ext
  simp only [Word.n, Fin.val_ofNat, toNat_ofDigits]
  omega

end Fields

theorem ofAddress_fields (w : Word) : ofAddress w.family w.address = w := by
  have := w.toNat_lt
  apply toNat_inj
  simp only [toNat_ofAddress, family, address, Fin.val_ofNat]
  omega

theorem ofRegisterByte_fields (w : Word) : ofRegisterByte w.family w.x w.lowByte = w := by
  have := w.toNat_lt
  apply toNat_inj
  simp only [toNat_ofRegisterByte, family, Word.x, lowByte, Fin.val_ofNat, UInt8.toNat_ofNat']
  omega

theorem ofDigits_fields (w : Word) : ofDigits w.family w.x w.y w.n = w := by
  have := w.toNat_lt
  apply toNat_inj
  simp only [toNat_ofDigits, family, Word.x, Word.y, Word.n, Fin.val_ofNat]
  omega

end Word

theorem Arithmetic.ofSelector?_eq_some_iff {n : Fin 16} {op : Arithmetic} :
    ofSelector? n = some op ↔ op.selector = n := by
  revert n
  cases op <;> decide

namespace Instruction

variable {w : Word} {i : Instruction}

theorem ofWord?_toWord (i : Instruction) : ofWord? i.toWord = some i := by
  cases i with
  | skip c =>
    cases c <;> simp only [toWord, ofWord?, Word.family_ofRegisterByte, Word.x_ofRegisterByte,
      Word.lowByte_ofRegisterByte, Word.family_ofDigits, Word.x_ofDigits, Word.y_ofDigits,
      Word.n_ofDigits] <;> rfl
  | arithmetic op x y =>
    have hop := Arithmetic.ofSelector?_eq_some_iff.2 (rfl : op.selector = op.selector)
    simp only [toWord, ofWord?, Word.family_ofDigits, Word.x_ofDigits, Word.y_ofDigits,
      Word.n_ofDigits, hop]
    rfl
  | _ =>
    simp only [toWord, ofWord?, Word.family_ofAddress, Word.address_ofAddress,
      Word.family_ofRegisterByte, Word.x_ofRegisterByte, Word.lowByte_ofRegisterByte,
      Word.family_ofDigits, Word.x_ofDigits, Word.y_ofDigits, Word.n_ofDigits]
    rfl

theorem toWord_of_plain? {a : Address} (h : plain? a = some i) : i.toWord = .ofAddress 0x0 a := by
  rw [plain?] at h
  split at h <;> cases h <;> next ha => exact congrArg (Word.ofAddress 0x0) (Fin.ext ha.symm)

theorem toWord_of_keySkip? {x : Register} {k : UInt8} (h : keySkip? x k = some i) :
    i.toWord = .ofRegisterByte 0xE x k := by
  rw [keySkip?] at h
  split at h <;> cases h <;> next hk =>
    exact congrArg (Word.ofRegisterByte 0xE x) (UInt8.toNat_inj.1 hk.symm)

theorem toWord_of_transfer? {x : Register} {k : UInt8} (h : transfer? x k = some i) :
    i.toWord = .ofRegisterByte 0xF x k := by
  rw [transfer?] at h
  split at h <;> cases h <;> next hk =>
    exact congrArg (Word.ofRegisterByte 0xF x) (UInt8.toNat_inj.1 hk.symm)

theorem toWord_of_ofWord? (h : ofWord? w = some i) : i.toWord = w := by
  have address {f : Fin 16} (hf : w.family.val = f.val) : .ofAddress f w.address = w := by
    rw [← Fin.ext hf, w.ofAddress_fields]
  have registerByte {f : Fin 16} (hf : w.family.val = f.val) :
      .ofRegisterByte f w.x w.lowByte = w := by
    rw [← Fin.ext hf, w.ofRegisterByte_fields]
  have digits {f : Fin 16} (hf : w.family.val = f.val) : .ofDigits f w.x w.y w.n = w := by
    rw [← Fin.ext hf, w.ofDigits_fields]
  rw [ofWord?] at h
  split at h
  case h_1 hf => exact (toWord_of_plain? h).trans (address hf)
  case h_2 hf | h_3 hf | h_11 hf | h_12 hf =>
    cases h
    exact address hf
  case h_4 hf | h_5 hf | h_7 hf | h_8 hf | h_13 hf =>
    cases h
    exact registerByte hf
  case h_6 hf | h_10 hf =>
    split at h
    · next hn =>
      cases h
      rw [toWord, ← hn]
      exact digits hf
    · cases h
  case h_9 hf =>
    obtain ⟨op, hop, rfl⟩ := Option.map_eq_some_iff.1 h
    rw [toWord, Arithmetic.ofSelector?_eq_some_iff.1 hop]
    exact digits hf
  case h_14 hf =>
    cases h
    exact digits hf
  case h_15 hf => exact (toWord_of_keySkip? h).trans (registerByte hf)
  case h_16 hf => exact (toWord_of_transfer? h).trans (registerByte hf)
  case h_17 => cases h

theorem ofWord?_eq_some_iff : ofWord? w = some i ↔ i.toWord = w :=
  ⟨toWord_of_ofWord?, fun h => h ▸ ofWord?_toWord i⟩

theorem ofWord?_eq_none_iff : ofWord? w = none ↔ ∀ i : Instruction, i.toWord ≠ w := by
  rw [Option.eq_none_iff_forall_ne_some]
  exact forall_congr' fun i => not_congr ofWord?_eq_some_iff

end Instruction

theorem Word.digits_ofDigits (f x y n : Fin 16) :
    (ofDigits f x y n).digits =
      (UInt8.ofNat f.val, UInt8.ofNat x.val, UInt8.ofNat y.val, UInt8.ofNat n.val) := by
  rw [digits, family_ofDigits, x_ofDigits, y_ofDigits, n_ofDigits]

end ChipEight
