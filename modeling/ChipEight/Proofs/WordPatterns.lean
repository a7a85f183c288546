import ChipEight.Proofs.InstructionTable
import Mathlib.Data.Fin.Basic
import Mathlib.Data.List.Forall2

/-!
# Patterns of words

The instruction table as it is usually printed: thirty-five patterns of four digits, in which the
letters `X`, `Y` and `N` leave digits open, each with the instruction that is read off the fields of
a word that fits it. Reading a word agrees with the table in both directions, and no two words have
the same instruction. Registers, heights and addresses are in range by their types.
-/

namespace ChipEight

/-- A row of the printed table: a pattern of digits and the instruction of the words that fit. -/
structure WordPattern where
  digits : String
  reads : Word → Instruction

namespace WordPattern

/-- The digit that a character of a pattern asks for; a letter that names a field asks for none. -/
def digit? : Char → Option Nat
  | '0' => some 0x0
  | '1' => some 0x1
  | '2' => some 0x2
  | '3' => some 0x3
  | '4' => some 0x4
  | '5' => some 0x5
  | '6' => some 0x6
  | '7' => some 0x7
  | '8' => some 0x8
  | '9' => some 0x9
  | 'A' => some 0xA
  | 'B' => some 0xB
  | 'C' => some 0xC
  | 'D' => some 0xD
  | 'E' => some 0xE
  | 'F' => some 0xF
  | _ => none

/-- A word fits a pattern when it has every digit that the pattern asks for. -/
def Fits (p : WordPattern) (w : Word) : Prop :=
  List.Forall₂ (fun c d => ∀ e ∈ digit? c, d.val = e) p.digits.toList [w.family, w.x, w.y, w.n]

/-- The printed table. -/
def table : List WordPattern := [
  ⟨"0000", fun _ => .idle⟩,
  ⟨"00E0", fun _ => .clear⟩,
  ⟨"00EE", fun _ => .ret⟩,
  ⟨"1NNN", fun w => .jump w.address⟩,
  ⟨"2NNN", fun w => .call w.address⟩,
  ⟨"3XNN", fun w => .skip (.equalsByte w.x w.lowByte)⟩,
  ⟨"4XNN", fun w => .skip (.differsByte w.x w.lowByte)⟩,
  ⟨"5XY0", fun w => .skip (.equals w.x w.y)⟩,
  ⟨"6XNN", fun w => .load w.x w.lowByte⟩,
  ⟨"7XNN", fun w => .addByte w.x w.lowByte⟩,
  ⟨"8XY0", fun w => .arithmetic .copy w.x w.y⟩,
  ⟨"8XY1", fun w => .arithmetic .or w.x w.y⟩,
  ⟨"8XY2", fun w => .arithmetic .and w.x w.y⟩,
  ⟨"8XY3", fun w => .arithmetic .xor w.x w.y⟩,
  ⟨"8XY4", fun w => .arithmetic .add w.x w.y⟩,
  ⟨"8XY5", fun w => .arithmetic .subtract w.x w.y⟩,
  ⟨"8XY6", fun w => .arithmetic .shiftRight w.x w.y⟩,
  ⟨"8XY7", fun w => .arithmetic .subtractFrom w.x w.y⟩,
  ⟨"8XYE", fun w => .arithmetic .shiftLeft w.x w.y⟩,
  ⟨"9XY0", fun w => .skip (.differs w.x w.y)⟩,
  ⟨"ANNN", fun w => .setIndex w.address⟩,
  ⟨"BNNN", fun w => .jumpFrom w.address⟩,
  ⟨"CXNN", fun w => .random w.x w.lowByte⟩,
  ⟨"DXYN", fun w => .draw w.x w.y w.n⟩,
  ⟨"EX9E", fun w => .skip (.pressed w.x)⟩,
  ⟨"EXA1", fun w => .skip (.released w.x)⟩,
  ⟨"FX07", fun w => .readDelay w.x⟩,
  ⟨"FX0A", fun w => .awaitKey w.x⟩,
  ⟨"FX15", fun w => .setDelay w.x⟩,
  ⟨"FX18", fun w => .setSound w.x⟩,
  ⟨"FX1E", fun w => .advanceIndex w.x⟩,
  ⟨"FX29", fun w => .pointAtGlyph w.x⟩,
  ⟨"FX33", fun w => .storeDigits w.x⟩,
  ⟨"FX55", fun w => .storeThrough w.x⟩,
  ⟨"FX65", fun w => .loadThrough w.x⟩]

end WordPattern

/-- The pattern of the words of an instruction. -/
def Instruction.pattern : Instruction → String
  | .idle => "0000"
  | .clear => "00E0"
  | .ret => "00EE"
  | .jump _ => "1NNN"
  | .call _ => "2NNN"
  | .skip (.equalsByte _ _) => "3XNN"
  | .skip (.differsByte _ _) => "4XNN"
  | .skip (.equals _ _) => "5XY0"
  | .skip (.differs _ _) => "9XY0"
  | .skip (.pressed _) => "EX9E"
  | .skip (.released _) => "EXA1"
  | .load _ _ => "6XNN"
  | .addByte _ _ => "7XNN"
  | .arithmetic .copy _ _ => "8XY0"
  | .arithmetic .or _ _ => "8XY1"
  | .arithmetic .and _ _ => "8XY2"
  | .arithmetic .xor _ _ => "8XY3"
  | .arithmetic .add _ _ => "8XY4"
  | .arithmetic .subtract _ _ => "8XY5"
  | .arithmetic .shiftRight _ _ => "8XY6"
  | .arithmetic .subtractFrom _ _ => "8XY7"
  | .arithmetic .shiftLeft _ _ => "8XYE"
  | .setIndex _ => "ANNN"
  | .jumpFrom _ => "BNNN"
  | .random _ _ => "CXNN"
  | .draw _ _ _ => "DXYN"
  | .readDelay _ => "FX07"
  | .awaitKey _ => "FX0A"
  | .setDelay _ => "FX15"
  | .setSound _ => "FX18"
  | .advanceIndex _ => "FX1E"
  | .pointAtGlyph _ => "FX29"
  | .storeDigits _ => "FX33"
  | .storeThrough _ => "FX55"
  | .loadThrough _ => "FX65"

namespace Word

variable (w : Word)

private theorem toNat_eq_digits :
    w.toNat = 4096 * w.family.val + 256 * w.x.val + 16 * w.y.val + w.n.val := by
  rw [← toNat_ofDigits, ofDigits_fields]

private theorem toNat_lowByte : w.lowByte.toNat = 16 * w.y.val + w.n.val := by
  simp only [lowByte, y, n, UInt8.toNat_ofNat', Fin.val_ofNat]
  omega

private theorem val_address : w.address.val = 256 * w.x.val + 16 * w.y.val + w.n.val := by
  simp only [address, x, y, n, Fin.val_ofNat]
  omega

private theorem toNat_ofBytes (high low : UInt8) :
    (ofBytes high low).toNat = 256 * high.toNat + low.toNat := by
  have := high.toNat_lt
  have := low.toNat_lt
  rw [ofBytes, toNat_ofNat]
  omega

section Fields

variable (f x : Fin 16) (a : Address) (k : UInt8)

@[simp] theorem x_ofAddress : (ofAddress f a).x = Fin.ofNat 16 (a.val / 256) := by
  apply Fin.ext
  simp only [Word.x, Fin.val_ofNat, toNat_ofAddress]
  omega

@[simp] theorem y_ofAddress : (ofAddress f a).y = Fin.ofNat 16 (a.val / 16) := by
  apply Fin.ext
  simp only [Word.y, Fin.val_ofNat, toNat_ofAddress]
  omega

@[simp] theorem n_ofAddress : (ofAddress f a).n = Fin.ofNat 16 a.val := by
  apply Fin.ext
  simp only [Word.n, Fin.val_ofNat, toNat_ofAddress]
  omega

@[simp] theorem y_ofRegisterByte : (ofRegisterByte f x k).y = Fin.ofNat 16 (k.toNat / 16) := by
  apply Fin.ext
  simp only [Word.y, Fin.val_ofNat, toNat_ofRegisterByte]
  omega

@[simp] theorem n_ofRegisterByte : (ofRegisterByte f x k).n = Fin.ofNat 16 k.toNat := by
  apply Fin.ext
  simp only [Word.n, Fin.val_ofNat, toNat_ofRegisterByte]
  omega

end Fields
end Word

namespace WordPattern

theorem toWord_reads (w : Word) : ∀ p ∈ table, p.Fits w → (p.reads w).toWord = w := by
  have hdigits := w.toNat_eq_digits
  have hlow := w.toNat_lowByte
  have haddress := w.val_address
  simp only [table, List.forall_mem_cons, List.not_mem_nil, false_implies, implies_true, and_true]
  and_intros
  all_goals
    intro fits
    simp only [Fits, digit?, String.reduceToList, List.forall₂_cons, List.forall₂_nil_right_iff,
      Option.mem_def, Option.some.injEq, forall_eq'] at fits
    apply Word.toNat_inj
    simp only [Instruction.toWord, Word.toNat_ofAddress, Word.toNat_ofRegisterByte,
      Word.toNat_ofDigits, Arithmetic.selector, UInt8.reduceToNat]
    omega

theorem exists_pattern (i : Instruction) : ∃ p ∈ table, p.digits = i.pattern := by
  rw [← List.mem_map]
  cases i with
  | skip c => cases c <;> simp [Instruction.pattern, table]
  | arithmetic op x y => cases op <;> simp [Instruction.pattern, table]
  | _ => simp [Instruction.pattern, table]

theorem fits_pattern {p : WordPattern} {i : Instruction} (h : p.digits = i.pattern) :
    p.Fits i.toWord := by
  rw [Fits, h]
  cases i with
  | skip c =>
    cases c <;>
      simp [Instruction.pattern, Instruction.toWord, digit?, Fin.coe_ofNat_eq_mod]
  | arithmetic op x y =>
    cases op <;>
      simp [Instruction.pattern, Instruction.toWord, Arithmetic.selector, digit?,
        Fin.coe_ofNat_eq_mod]
  | _ => simp [Instruction.pattern, Instruction.toWord, digit?, Fin.coe_ofNat_eq_mod]

theorem exists_reads (i : Instruction) : ∃ p ∈ table, p.Fits i.toWord ∧ p.reads i.toWord = i := by
  obtain ⟨p, hp, hdigits⟩ := exists_pattern i
  have hfits := fits_pattern hdigits
  have hword := congrArg Instruction.ofWord? (toWord_reads i.toWord p hp hfits)
  rw [Instruction.ofWord?_toWord, Instruction.ofWord?_toWord, Option.some_inj] at hword
  exact ⟨p, hp, hfits, hword⟩

end WordPattern

namespace Word

theorem instruction_eq_ok_iff {w : Word} {i : Instruction} :
    w.instruction = .ok i ↔ i.toWord = w := by
  rw [← Instruction.ofWord?_eq_some_iff, instruction]
  cases Instruction.ofWord? w <;> simp

theorem instruction_eq_error_iff {w : Word} {fault : Fault} :
    w.instruction = .error fault ↔
      (∀ i : Instruction, i.toWord ≠ w) ∧ fault = .unimplemented w w.digits := by
  rw [← Instruction.ofWord?_eq_none_iff, instruction]
  cases Instruction.ofWord? w <;> simp [eq_comm]

end Word

open WordPattern

/-- Reading a word gives exactly what the printed table says: the instruction of a row that the word
fits, and where it fits none, a fault with the word and its four digits. Every instruction has one
word, and that word is read as no other one. The fields of a word are those digits, numbers and
bytes that its value consists of, and the word of two bytes has the digits of both. -/
theorem reading_exact :
    table.length = 35 ∧
    (∀ (w : Word) (i : Instruction),
      w.instruction = .ok i ↔ ∃ p ∈ table, p.Fits w ∧ p.reads w = i) ∧
    (∀ (w : Word) (fault : Fault),
      w.instruction = .error fault ↔
        (∀ p ∈ table, ¬ p.Fits w) ∧ fault = .unimplemented w w.digits) ∧
    (∀ (w : Word) (i : Instruction), w.instruction = .ok i ↔ i.toWord = w) ∧
    (∀ i : Instruction, ∃! w : Word, w.instruction = .ok i) ∧
    (∀ w : Word,
      w.toNat = 4096 * w.family.val + 256 * w.x.val + 16 * w.y.val + w.n.val ∧
      w.lowByte.toNat = 16 * w.y.val + w.n.val ∧
      w.address.val = 256 * w.x.val + w.lowByte.toNat ∧
      w.digits.1.toNat = w.family.val ∧ w.digits.2.1.toNat = w.x.val ∧
      w.digits.2.2.1.toNat = w.y.val ∧ w.digits.2.2.2.toNat = w.n.val) ∧
    ∀ high low : UInt8,
      let w := Word.ofBytes high low
      w.toNat = 256 * high.toNat + low.toNat ∧
      high.toNat = 16 * w.family.val + w.x.val ∧ w.lowByte = low := by
  have reads_iff (w : Word) (i : Instruction) :
      i.toWord = w ↔ ∃ p ∈ table, p.Fits w ∧ p.reads w = i := by
    constructor
    · rintro rfl
      exact exists_reads i
    · rintro ⟨p, hp, hfits, rfl⟩
      exact toWord_reads w p hp hfits
  refine ⟨rfl, fun w i => Word.instruction_eq_ok_iff.trans (reads_iff w i), fun w fault => ?_,
    fun w i => Word.instruction_eq_ok_iff, fun i => ?_, fun w => ?_, ?_⟩
  · rw [Word.instruction_eq_error_iff]
    apply and_congr_left'
    constructor
    · intro hnone p hp hfits
      exact hnone (p.reads w) ((reads_iff w _).2 ⟨p, hp, hfits, rfl⟩)
    · intro hnone i hi
      obtain ⟨p, hp, hfits, _⟩ := (reads_iff w i).1 hi
      exact hnone p hp hfits
  · refine ⟨i.toWord, Word.instruction_eq_ok_iff.2 rfl, fun w hw => ?_⟩
    exact (Word.instruction_eq_ok_iff.1 hw).symm
  · have hlow := w.toNat_lowByte
    have haddress := w.val_address
    have digit (d : Fin 16) : (UInt8.ofNat d.val).toNat = d.val :=
      UInt8.toNat_ofNat_of_lt' (Nat.lt_of_lt_of_le d.isLt (by decide))
    exact ⟨w.toNat_eq_digits, hlow, by omega, digit _, digit _, digit _, digit _⟩
  · intro high low w
    have hword := w.toNat_eq_digits
    have hlow := w.toNat_lowByte
    have hbytes : w.toNat = 256 * high.toNat + low.toNat := Word.toNat_ofBytes high low
    have := high.toNat_lt
    have := low.toNat_lt
    refine ⟨hbytes, by omega, UInt8.toNat_inj.1 ?_⟩
    omega

example : (Word.ofNat 0x8AB6).instruction = .ok (.arithmetic .shiftRight 0xA 0xB) := rfl

example : (Word.ofNat 0x5AB1).instruction =
    .error (.unimplemented (.ofNat 0x5AB1) (5, 10, 11, 1)) := rfl

end ChipEight
