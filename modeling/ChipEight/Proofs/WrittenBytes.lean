import Mathlib.Order.Bounds.Defs
import ChipEight.Proofs.StepFaults
import ChipEight.Proofs.UnreadMemory

/-!
# Bytes that were written

Memory under writes of any length from any address on. A write that stays inside memory replaces the
bytes that it covers and one that does not replaces none, so a read finds at each address what the
last successful write there left, or what was there before all of them. An access that leaves memory
names the least of its addresses outside.
-/

namespace ChipEight

/-- The addresses of an access that lie outside memory. -/
def Memory.beyond (address length : Nat) : Set Nat := { a | Covers address length a ∧ size ≤ a }

/-- Some bytes for memory and the address of the first one, which may be any number. -/
structure MemoryWrite where
  address : Nat
  data : List UInt8

namespace MemoryWrite

/-- The byte that a write with a given answer leaves at an address, if it succeeded and covers the
address. -/
def byte? (a : Nat) : MemoryWrite × Option Fault → Option UInt8
  | (w, none) => if w.address ≤ a then w.data[a - w.address]? else none
  | (_, some _) => none

/-- The byte of the last successful write that covers an address. -/
def lastByte? (a : Nat) (past : List (MemoryWrite × Option Fault)) : Option UInt8 :=
  past.reverse.findSome? (byte? a)

private theorem lastByte?_cons (a : Nat) (p : MemoryWrite × Option Fault)
    (past : List (MemoryWrite × Option Fault)) :
    lastByte? a (p :: past) = (lastByte? a past).or (byte? a p) := by
  rw [lastByte?, List.reverse_cons, List.findSome?_append, List.findSome?_singleton, lastByte?]

end MemoryWrite

namespace State

/-- The state behind a write, and the fault of the write if there is one. -/
def write (s : State) (w : MemoryWrite) : State × Option Fault :=
  match s.memory.write w.address w.data with
  | .ok memory => ({ s with memory }, none)
  | .error fault => (s, some fault)

/-- The state behind writes one after the other, and the writes with their answers, the earliest
first. -/
def writeAll (s : State) : List MemoryWrite → State × List (MemoryWrite × Option Fault)
  | [] => (s, [])
  | w :: rest =>
    let first := s.write w
    let others := first.1.writeAll rest
    (others.1, (w, first.2) :: others.2)

end State

namespace Memory

variable {m : Memory} {address length a : Nat} {fault : Fault}

/-- The least address outside is where the access starts, unless it starts inside: then it is where
memory ends. -/
theorem isLeast_beyond_iff :
    IsLeast (beyond address length) a ↔
      0 < length ∧ 4096 < address + length ∧ a = max address 4096 := by
  constructor
  · rintro ⟨⟨⟨hstart, hend⟩, houtside⟩, hleast⟩
    have hle : max address 4096 ≤ a := Nat.max_le.2 ⟨hstart, houtside⟩
    have hmem : max address 4096 ∈ beyond address length :=
      ⟨⟨Nat.le_max_left _ _, Nat.lt_of_le_of_lt hle hend⟩, Nat.le_max_right _ _⟩
    exact ⟨by omega, by omega, Nat.le_antisymm (hleast hmem) hle⟩
  · rintro ⟨hlength, hleaves, rfl⟩
    refine ⟨⟨⟨Nat.le_max_left _ _, by omega⟩, Nat.le_max_right _ _⟩, ?_⟩
    rintro b ⟨⟨hstart, _⟩, houtside⟩
    exact Nat.max_le.2 ⟨hstart, houtside⟩

theorem accessFault?_eq_some_iff_isLeast :
    accessFault? address length = some fault ↔
      ∃ a, IsLeast (beyond address length) a ∧ fault = .outOfBounds a := by
  simp only [accessFault?_eq_some_iff, isLeast_beyond_iff]
  constructor
  · rintro ⟨hlength, hleaves, rfl⟩
    exact ⟨_, ⟨hlength, hleaves, rfl⟩, rfl⟩
  · rintro ⟨_, ⟨hlength, hleaves, rfl⟩, rfl⟩
    exact ⟨hlength, hleaves, rfl⟩

theorem accessFault?_eq_none_iff : accessFault? address length = none ↔ Inside address length := by
  rw [accessFault?]
  split
  · next inside => simp [inside]
  · next leaves => simp [leaves]

theorem of?_read (m : Memory) (address length : Nat) :
    Fault.of? (m.read address length) = accessFault? address length := by
  rw [read_eq, accessFault?]
  split <;> rfl

theorem read_eq_ok_iff {bytes : List UInt8} :
    m.read address length = .ok bytes ↔
      Inside address length ∧ m.window address length = bytes := by
  rw [read_eq]
  split
  · next inside => simp [inside]
  · next leaves => simp [leaves]

end Memory

namespace State

variable (s : State)

theorem write_eq (w : MemoryWrite) :
    s.write w =
      if Memory.Inside w.address w.data.length then
        ({ s with memory := ⟨overlay s.memory.bytes w.address w.data⟩ }, none)
      else (s, some (Memory.outside w.address)) := by
  rw [write, Memory.write_eq]
  by_cases inside : Memory.Inside w.address w.data.length
  · rw [if_pos inside, if_pos inside]
  · rw [if_neg inside, if_neg inside]

theorem snd_write (w : MemoryWrite) :
    (s.write w).2 = Memory.accessFault? w.address w.data.length := by
  rw [write_eq, Memory.accessFault?]
  split <;> rfl

private theorem write_of_fault {w : MemoryWrite} {fault : Fault} (h : (s.write w).2 = some fault) :
    (s.write w).1 = s := by
  rw [write_eq] at h ⊢
  split at h
  · cases h
  · next leaves => rw [if_neg leaves]

private theorem write_with_memory (w : MemoryWrite) :
    (s.write w).1 = { s with memory := (s.write w).1.memory } := by
  rw [write_eq]
  split <;> rfl

private theorem writeAll_with_memory (writes : List MemoryWrite) :
    (s.writeAll writes).1 = { s with memory := (s.writeAll writes).1.memory } := by
  induction writes generalizing s with
  | nil => rfl
  | cons w rest ih =>
    rw [writeAll, ih, write_with_memory]

theorem getElem?_write (w : MemoryWrite) (a : Nat) :
    (s.write w).1.memory.bytes[a]? =
      (MemoryWrite.byte? a (w, (s.write w).2)).or s.memory.bytes[a]? := by
  rw [write_eq]
  split
  · next inside =>
    rw [MemoryWrite.byte?]
    by_cases ha : a < 4096
    · rw [Vector.getElem?_eq_getElem ha, Vector.getElem?_eq_getElem ha, getElem_overlay]
      split
      · cases w.data[a - w.address]? <;> rfl
      · rfl
    · have uncovered : w.data.length ≤ a - w.address := by
        simp only [Memory.Inside, Memory.size] at inside
        omega
      simp [ha, uncovered]
  · rfl

/-- Writes one after the other leave at each address the byte of the last one there that
succeeded. -/
theorem getElem?_writeAll (writes : List MemoryWrite) (a : Nat) :
    (s.writeAll writes).1.memory.bytes[a]? =
      (MemoryWrite.lastByte? a (s.writeAll writes).2).or s.memory.bytes[a]? := by
  induction writes generalizing s with
  | nil => rfl
  | cons w rest ih =>
    rw [writeAll, ih, getElem?_write, MemoryWrite.lastByte?_cons, Option.or_assoc]

end State

/-- Memory holds what was last written to it. Behind all writes, of any bytes from any address on, a
write succeeds exactly when it has no bytes or stays inside memory, and a read likewise. A write
that fails changes nothing, and one that succeeds nothing but memory. A read gives at each position
the byte of the last successful write that covers the address, or the byte that was there at the
beginning. An access that fails names the least of its addresses that lies outside. -/
theorem bytes_by_last_write (s : State) (writes : List MemoryWrite) :
    let now := (s.writeAll writes).1
    let past := (s.writeAll writes).2
    now = { s with memory := now.memory } ∧
    (∀ w : MemoryWrite,
      ((now.write w).2 = none ↔ w.data = [] ∨ w.address + w.data.length ≤ Memory.size) ∧
      ∀ fault,
        ((now.write w).2 = some fault ↔
          ∃ a, IsLeast (Memory.beyond w.address w.data.length) a ∧ fault = .outOfBounds a) ∧
        ((now.write w).2 = some fault → (now.write w).1 = now)) ∧
    ∀ address length,
      ((∃ bytes, now.memory.read address length = .ok bytes) ↔
        length = 0 ∨ address + length ≤ Memory.size) ∧
      (∀ bytes, now.memory.read address length = .ok bytes → bytes.length = length ∧
        ∀ k < length, bytes[k]? =
          (MemoryWrite.lastByte? (address + k) past).or s.memory.bytes[address + k]?) ∧
      ∀ fault, now.memory.read address length = .error fault ↔
        ∃ a, IsLeast (Memory.beyond address length) a ∧ fault = .outOfBounds a := by
  intro now past
  refine ⟨s.writeAll_with_memory writes, fun w => ⟨?_, fun fault => ⟨?_, now.write_of_fault⟩⟩,
    fun address length => ⟨?_, fun bytes hread => ?_, fun fault => ?_⟩⟩
  · rw [State.snd_write, Memory.accessFault?_eq_none_iff, Memory.Inside, List.length_eq_zero_iff]
  · rw [State.snd_write, Memory.accessFault?_eq_some_iff_isLeast]
  · simp only [Memory.read_eq_ok_iff, exists_and_left, exists_eq', and_true]
    exact Iff.rfl
  · obtain ⟨inside, rfl⟩ := Memory.read_eq_ok_iff.1 hread
    refine ⟨Memory.length_window, fun k hk => ?_⟩
    rw [Memory.getElem?_window hk inside]
    exact s.getElem?_writeAll writes (address + k)
  · rw [← Fault.of?_eq_some_iff, Memory.of?_read, Memory.accessFault?_eq_some_iff_isLeast]

/-- The first glyph with three of its bytes replaced and one of these replaced again. A write across
the end of memory is refused in between; so are a read across the end and one that starts behind it,
while an access without bytes succeeds even there. -/
theorem bytes_by_last_write_overlapping :
    let across : MemoryWrite := ⟨0xFFE, [9, 9, 9]⟩
    let now := (State.initial.writeAll [⟨1, [1, 2, 3]⟩, across, ⟨2, [7]⟩]).1
    now.memory.read 0 5 = .ok [0xF0, 1, 7, 3, 0xF0] ∧
    (∃ bytes, now.memory.read 0x1234 0 = .ok bytes) ∧ (now.write ⟨0x1234, []⟩).2 = none ∧
    (now.write across).2 = some (.outOfBounds 0x1000) ∧ (now.write across).1 = now ∧
    now.memory.read 0xFFF 2 = .error (.outOfBounds 0x1000) ∧
    now.memory.read 0x1234 1 = .error (.outOfBounds 0x1234) := by
  intro across now
  obtain ⟨_, write, read⟩ :=
    bytes_by_last_write State.initial [⟨1, [1, 2, 3]⟩, across, ⟨2, [7]⟩]
  have hrefused : (now.write across).2 = some (.outOfBounds 0x1000) :=
    ((write across).2 _).1.2 ⟨_, Memory.isLeast_beyond_iff.2 (by decide), rfl⟩
  obtain ⟨bytes, hbytes⟩ := (read 0 5).1.2 (.inr (by decide))
  have hglyph : bytes = [0xF0, 1, 7, 3, 0xF0] := by
    obtain ⟨hlength, hcells⟩ := (read 0 5).2.1 bytes hbytes
    apply List.ext_getElem?
    intro k
    by_cases hk : k < 5
    · rw [hcells k hk]
      revert k
      decide +kernel
    · have hbehind : 5 ≤ k := Nat.le_of_not_lt hk
      rw [List.getElem?_eq_none (hlength ▸ hbehind), List.getElem?_eq_none hbehind]
  refine ⟨hglyph ▸ hbytes, (read 0x1234 0).1.2 (.inl rfl), (write ⟨0x1234, []⟩).1.2 (.inl rfl),
    hrefused, ((write across).2 _).2 hrefused, ?_, ?_⟩
  · exact ((read 0xFFF 2).2.2 _).2 ⟨_, Memory.isLeast_beyond_iff.2 (by decide), rfl⟩
  · exact ((read 0x1234 1).2.2 _).2 ⟨_, Memory.isLeast_beyond_iff.2 (by decide), rfl⟩

end ChipEight
