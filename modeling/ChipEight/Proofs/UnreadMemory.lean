import ChipEight.Proofs.HistoryMoments

/-!
# Unread memory

What a machine does with memory, address by address. A step reads the two bytes of the word that it
fetches, and an instruction that it carries out reads or writes some bytes from the index register
on. A byte that no step reads before a step has written it decides nothing: machines that differ in
that byte alone give the same answers for ever, and the write makes them equal.
-/

namespace ChipEight

namespace Memory

/-- Whether `length` bytes from `start` on reach an address. -/
def Covers (start length a : Nat) : Prop := start ≤ a ∧ a < start + length

instance (start length a : Nat) : Decidable (Covers start length a) :=
  inferInstanceAs (Decidable (_ ∧ _))

/-- Two memories hold the same bytes except at one address. -/
def AgreeExcept (a : Nat) (p q : Memory) : Prop := ∀ b, b ≠ a → p.byteAt b = q.byteAt b

variable {p q : Memory} {a start length : Nat}

theorem ext_byteAt (h : ∀ b < 4096, p.byteAt b = q.byteAt b) : p = q := by
  cases p
  cases q
  congr 1
  apply Vector.ext
  intro b hb
  rw [← byteAt_of_lt hb, ← byteAt_of_lt hb]
  exact h b hb

theorem byteAt_overlay (p : Memory) (start : Nat) (data : List UInt8) {b : Nat} (hb : b < 4096) :
    byteAt ⟨overlay p.bytes start data⟩ b =
      if start ≤ b then (data[b - start]?).getD (p.byteAt b) else p.byteAt b := by
  rw [byteAt_of_lt hb, byteAt_of_lt hb, getElem_overlay]

theorem byteAt_overlay_of_not_covers (p : Memory) {data : List UInt8}
    (h : ¬ Covers start data.length a) :
    byteAt ⟨overlay p.bytes start data⟩ a = p.byteAt a := by
  by_cases ha : a < 4096
  · rw [byteAt_overlay p start data ha]
    split
    · next hstart =>
      have hbehind : data.length ≤ a - start := by
        rw [Covers] at h
        omega
      rw [List.getElem?_eq_none hbehind, Option.getD_none]
    · rfl
  · simp [byteAt, ha]

theorem window_overlay (p : Memory) {data : List UInt8} (h : start + data.length ≤ 4096) :
    window ⟨overlay p.bytes start data⟩ start data.length = data := by
  apply List.ext_getElem
  · simp
  · intro k hk hk'
    simp only [window, List.getElem_map, List.getElem_range]
    rw [byteAt_overlay p start data (by omega), if_pos (Nat.le_add_right start k),
      Nat.add_sub_cancel_left, List.getElem?_eq_getElem hk', Option.getD_some]

theorem AgreeExcept.refl (a : Nat) (p : Memory) : AgreeExcept a p p := fun _ _ => rfl

theorem AgreeExcept.byteAt (h : AgreeExcept a p q) (hcovers : ¬ Covers start length a) {k : Nat}
    (hk : k < length) : p.byteAt (start + k) = q.byteAt (start + k) := by
  apply h
  rintro rfl
  exact hcovers ⟨Nat.le_add_right start k, Nat.add_lt_add_left hk start⟩

theorem AgreeExcept.window (h : AgreeExcept a p q) (hcovers : ¬ Covers start length a) :
    p.window start length = q.window start length := by
  rw [Memory.window, Memory.window, List.map_inj_left]
  intro k hk
  exact h.byteAt hcovers (List.mem_range.1 hk)

theorem AgreeExcept.word (h : AgreeExcept a p q) (hcovers : ¬ Covers start 2 a) :
    p.word start = q.word start := by
  rw [Memory.word, Memory.word, h.byteAt hcovers (k := 1) (by decide)]
  rw [← Nat.add_zero start, h.byteAt hcovers (k := 0) (by decide)]

theorem AgreeExcept.overlay (h : AgreeExcept a p q) (start : Nat) (data : List UInt8) :
    AgreeExcept a ⟨overlay p.bytes start data⟩ ⟨overlay q.bytes start data⟩ := by
  intro b hb
  by_cases hlt : b < 4096
  · rw [byteAt_overlay p start data hlt, byteAt_overlay q start data hlt, h b hb]
  · simp [Memory.byteAt, hlt]

theorem AgreeExcept.overlay_eq (h : AgreeExcept a p q) {data : List UInt8}
    (hcovers : Covers start data.length a) :
    (⟨ChipEight.overlay p.bytes start data⟩ : Memory) =
      ⟨ChipEight.overlay q.bytes start data⟩ := by
  apply ext_byteAt
  intro b hb
  by_cases hba : b = a
  · subst hba
    have hdata : b - start < data.length := by
      have := hcovers.1
      have := hcovers.2
      omega
    rw [byteAt_overlay p start data hb, byteAt_overlay q start data hb, if_pos hcovers.1,
      if_pos hcovers.1, List.getElem?_eq_getElem hdata, Option.getD_some, Option.getD_some]
  · exact h.overlay start data b hba

end Memory

namespace Instruction

/-- The number of bytes that an instruction reads from the index register on. -/
def bytesRead : Instruction → Nat
  | .draw _ _ n => n.val
  | .loadThrough x => x.val + 1
  | _ => 0

/-- The number of bytes that an instruction writes from the index register on. -/
def bytesWritten : Instruction → Nat
  | .storeDigits _ => 3
  | .storeThrough x => x.val + 1
  | _ => 0

def dataWritten (i : Instruction) (s : State) : List UInt8 :=
  match i with
  | .storeDigits x => decimalDigits (s.register x)
  | .storeThrough x => s.registersThrough x
  | _ => []

variable (i : Instruction) (s : State)

theorem length_dataWritten : (i.dataWritten s).length = i.bytesWritten := by
  cases i with
  | storeThrough x => exact length_registersThrough s x
  | _ => rfl

/-- Memory decides nothing but itself and the bytes that an instruction reads. -/
theorem effect_with_memory (keypad : Keypad) (randomByte : UInt8) {memory : Memory}
    (h : memory.window s.index.toNat i.bytesRead = s.memory.window s.index.toNat i.bytesRead) :
    i.effect keypad randomByte { s with memory } =
      { i.effect keypad randomByte s with
        memory := ⟨overlay memory.bytes s.index.toNat (i.dataWritten s)⟩ } := by
  cases i with
  | ret =>
    simp only [effect, State.returned, dataWritten, overlay_nil]
    split <;> rfl
  | skip c =>
    have hholds : c.holds keypad { s with memory } = c.holds keypad s := by cases c <;> rfl
    simp only [effect, execute, hholds, dataWritten, overlay_nil]
    split <;> rfl
  | awaitKey x =>
    simp only [effect, execute, State.awaitKey, dataWritten, overlay_nil]
    split <;> rfl
  | arithmetic op x y => cases op <;> rfl
  | draw x y n =>
    rw [bytesRead] at h
    simp only [effect, State.drawn, h, dataWritten, overlay_nil]
    rfl
  | loadThrough x =>
    rw [bytesRead] at h
    simp only [effect, State.loaded, h, dataWritten, overlay_nil]
    rfl
  | _ => rfl

theorem effect_memory (keypad : Keypad) (randomByte : UInt8) :
    (i.effect keypad randomByte s).memory =
      ⟨overlay s.memory.bytes s.index.toNat (i.dataWritten s)⟩ := by
  have hsame : s.memory.window s.index.toNat i.bytesRead =
    s.memory.window s.index.toNat i.bytesRead := rfl
  exact congrArg State.memory (i.effect_with_memory s keypad randomByte hsame)

theorem fault?_with_memory (memory : Memory) : i.fault? { s with memory } = i.fault? s := by
  cases i <;> rfl

end Instruction

namespace Moment

/-- A step reads the word that it fetches and the bytes that its instruction takes. -/
def Reads (p : Moment) (a : Nat) : Prop :=
  (p.request.isStep ∧ p.machine.state.pc.toNat + 2 ≤ Memory.size ∧
    Memory.Covers p.machine.state.pc.toNat 2 a) ∨
  ∃ i ∈ p.executed?, Memory.Covers p.machine.state.index.toNat i.bytesRead a

/-- A step writes the bytes that its instruction stores. -/
def Writes (p : Moment) (a : Nat) : Prop :=
  ∃ i ∈ p.executed?, Memory.Covers p.machine.state.index.toNat i.bytesWritten a

instance (p : Moment) (a : Nat) : Decidable (p.Reads a) :=
  inferInstanceAs (Decidable (_ ∨ _))

instance (p : Moment) (a : Nat) : Decidable (p.Writes a) :=
  inferInstanceAs (Decidable (∃ _ ∈ _, _))

end Moment

namespace Machine

/-- Two machines that differ in the byte at one address at most. -/
def AgreeExcept (a : Nat) (n m : Machine) : Prop :=
  ∃ memory : Memory, memory.AgreeExcept a m.state.memory ∧
    n = { m with state := { m.state with memory } }

/-- No step of a history reads the byte at an address before a step has written it. -/
def WrittenFirst (m : Machine) (a : Nat) (requests : List HostRequest) : Prop :=
  ∀ k (hk : k < (m.moments requests).length), (m.moments requests)[k].Reads a →
    ∃ p ∈ (m.moments requests).take k, p.Writes a

instance (m : Machine) (a : Nat) (requests : List HostRequest) :
    Decidable (m.WrittenFirst a requests) :=
  inferInstanceAs (Decidable (∀ k (_ : k < _), _))

variable {n m : Machine} {a : Nat}

theorem memory_carryOut (m : Machine) (i : Instruction) :
    (m.carryOut i).state.memory =
      ⟨overlay m.state.memory.bytes m.state.index.toNat (i.dataWritten m.state.fetched)⟩ :=
  i.effect_memory m.state.fetched m.keypad m.random.nextByte

theorem carryOut_with_memory {memory : Memory} {i : Instruction}
    (h : memory.window m.state.index.toNat i.bytesRead =
      m.state.memory.window m.state.index.toNat i.bytesRead) :
    carryOut { m with state := { m.state with memory } } i =
      { m.carryOut i with
        state := { (m.carryOut i).state with
          memory := ⟨overlay memory.bytes m.state.index.toNat
            (i.dataWritten m.state.fetched)⟩ } } :=
  congrArg (fun state : State => (⟨state, m.keypad, m.random.skip i.randomWords⟩ : Machine))
    (i.effect_with_memory m.state.fetched m.keypad m.random.nextByte h)

namespace AgreeExcept

theorem refl (a : Nat) (m : Machine) : AgreeExcept a m m := ⟨m.state.memory, .refl a _, rfl⟩

theorem load (h : AgreeExcept a n m) (program : List UInt8) :
    (n.perform (.load program)).2 = (m.perform (.load program)).2 ∧
      AgreeExcept a (n.perform (.load program)).1 (m.perform (.load program)).1 := by
  obtain ⟨memory, hmemory, rfl⟩ := h
  rw [perform_load, perform_load]
  split
  · exact ⟨rfl, _, hmemory.overlay Memory.programStart program, rfl⟩
  · exact ⟨rfl, memory, hmemory, rfl⟩

theorem loadFrom (h : AgreeExcept a n m) (source : List Delivery) :
    (n.perform (.loadFrom source)).2 = (m.perform (.loadFrom source)).2 ∧
      AgreeExcept a (n.perform (.loadFrom source)).1 (m.perform (.loadFrom source)).1 := by
  rw [Machine.perform, Machine.perform, Machine.loadFrom, Machine.loadFrom]
  cases Delivery.gather source with
  | ok program => exact h.load program
  | error fault => exact ⟨rfl, h⟩

theorem press (h : AgreeExcept a n m) (key : UInt8) (down : Bool) :
    (n.perform (.press key down)).2 = (m.perform (.press key down)).2 ∧
      AgreeExcept a (n.perform (.press key down)).1 (m.perform (.press key down)).1 := by
  obtain ⟨memory, hmemory, rfl⟩ := h
  simp only [Machine.perform, Machine.press]
  cases m.keypad.set key down with
  | ok keypad => exact ⟨rfl, memory, hmemory, rfl⟩
  | error fault => exact ⟨rfl, memory, hmemory, rfl⟩

theorem fault?_eq (h : AgreeExcept a n m) (hreads : ¬ (Moment.mk m .step).Reads a) :
    n.state.fault? = m.state.fault? ∧ n.state.instruction? = m.state.instruction? := by
  obtain ⟨memory, hmemory, rfl⟩ := h
  rw [State.fault?, State.fault?, State.instruction?_eq, State.instruction?_eq]
  dsimp only
  by_cases hfits : m.state.pc.toNat + 2 ≤ 4096
  · have hword : memory.word m.state.pc.toNat = m.state.memory.word m.state.pc.toNat :=
      hmemory.word fun hcovers => hreads (.inl ⟨rfl, hfits, hcovers⟩)
    rw [if_pos hfits, if_pos hfits, if_pos hfits, if_pos hfits, hword]
    refine ⟨?_, rfl⟩
    cases (m.state.memory.word m.state.pc.toNat).instruction with
    | error fault => rfl
    | ok i => exact i.fault?_with_memory m.state.fetched memory
  · rw [if_neg hfits, if_neg hfits, if_neg hfits, if_neg hfits]
    exact ⟨rfl, rfl⟩

theorem step (h : AgreeExcept a n m) (hreads : ¬ (Moment.mk m .step).Reads a) :
    (n.perform .step).2 = (m.perform .step).2 ∧
      AgreeExcept a (n.perform .step).1 (m.perform .step).1 ∧
      ((Moment.mk m .step).Writes a → (n.perform .step).1 = (m.perform .step).1) := by
  obtain ⟨sameFault, sameInstruction⟩ := h.fault?_eq hreads
  cases houtcome : m.step with
  | error fault =>
    have hfault := step_eq_error_iff.1 houtcome
    rw [perform_step_of_fault hfault, perform_step_of_fault (sameFault.trans hfault)]
    refine ⟨rfl, h, ?_⟩
    rintro ⟨i, hi, _⟩
    simp [(executed?_eq_some_iff.1 hi).2.1] at hfault
  | ok next =>
    obtain ⟨hfault, i, hi, _⟩ := step_eq_ok_iff_carryOut.1 houtcome
    have hm : (Moment.mk m .step).executed? = some i := executed?_eq_some_iff.2 ⟨rfl, hfault, hi⟩
    have hn : (Moment.mk n .step).executed? = some i :=
      executed?_eq_some_iff.2 ⟨rfl, sameFault.trans hfault, sameInstruction.trans hi⟩
    rw [perform_of_executed hm, perform_of_executed hn]
    obtain ⟨memory, hmemory, rfl⟩ := h
    have hwindow : memory.window m.state.index.toNat i.bytesRead =
        m.state.memory.window m.state.index.toNat i.bytesRead :=
      hmemory.window fun hcovers => hreads (.inr ⟨i, hm, hcovers⟩)
    rw [carryOut_with_memory hwindow]
    refine ⟨rfl, ⟨_, ?_, rfl⟩, ?_⟩
    · rw [memory_carryOut]
      exact hmemory.overlay _ _
    · rintro ⟨j, hj, hcovers⟩
      rw [hm] at hj
      cases hj
      rw [← i.length_dataWritten m.state.fetched] at hcovers
      rw [hmemory.overlay_eq hcovers, ← memory_carryOut]

theorem perform (h : AgreeExcept a n m) {r : HostRequest} (hreads : ¬ (Moment.mk m r).Reads a) :
    (n.perform r).2 = (m.perform r).2 ∧ AgreeExcept a (n.perform r).1 (m.perform r).1 ∧
      ((Moment.mk m r).Writes a → (n.perform r).1 = (m.perform r).1) := by
  have noStep (hr : r ≠ .step) : ¬ (Moment.mk m r).Writes a := by
    rintro ⟨i, hi, _⟩
    exact hr (executed?_eq_some_iff.1 hi).1
  cases r with
  | step => exact h.step hreads
  | reset =>
    obtain ⟨memory, _, rfl⟩ := h
    exact ⟨rfl, .refl a m.reset, fun _ => rfl⟩
  | load program =>
    obtain ⟨hreply, hagree⟩ := h.load program
    exact ⟨hreply, hagree, fun hwrites => absurd hwrites (noStep (by simp))⟩
  | loadFrom source =>
    obtain ⟨hreply, hagree⟩ := h.loadFrom source
    exact ⟨hreply, hagree, fun hwrites => absurd hwrites (noStep (by simp))⟩
  | press key down =>
    obtain ⟨hreply, hagree⟩ := h.press key down
    exact ⟨hreply, hagree, fun hwrites => absurd hwrites (noStep (by simp))⟩
  | tick =>
    obtain ⟨memory, hmemory, rfl⟩ := h
    exact ⟨rfl, ⟨memory, hmemory, rfl⟩, fun hwrites => absurd hwrites (noStep (by simp))⟩

end AgreeExcept

theorem not_reads_of_writtenFirst {r : HostRequest} {rest : List HostRequest}
    (h : m.WrittenFirst a (r :: rest)) : ¬ (Moment.mk m r).Reads a := by
  intro hreads
  obtain ⟨_, hp, _⟩ := h 0 (Nat.succ_pos _) hreads
  cases hp

theorem WrittenFirst.tail {r : HostRequest} {rest : List HostRequest}
    (h : m.WrittenFirst a (r :: rest)) (hwrites : ¬ (Moment.mk m r).Writes a) :
    (m.perform r).1.WrittenFirst a rest := by
  intro k hk hreads
  obtain ⟨p, hp, hpwrites⟩ := h (k + 1) (Nat.succ_lt_succ hk) hreads
  rw [moments, List.take_succ_cons, List.mem_cons] at hp
  rcases hp with rfl | hp
  · exact absurd hpwrites hwrites
  · exact ⟨p, hp, hpwrites⟩

theorem WrittenFirst.of_isPrefix {before requests : List HostRequest}
    (h : m.WrittenFirst a requests) (hbefore : before <+: requests) : m.WrittenFirst a before := by
  obtain ⟨after, rfl⟩ := hbefore
  intro k hk hreads
  have hmoments := m.moments_append before after
  have hlater : k < (m.moments (before ++ after)).length := by
    rw [hmoments, List.length_append]
    omega
  have hsame : (m.moments (before ++ after))[k] = (m.moments before)[k] := by
    simp only [hmoments, List.getElem_append_left hk]
  obtain ⟨p, hp, hwrites⟩ := h k hlater (hsame ▸ hreads)
  rw [hmoments, List.take_append_of_le_length (Nat.le_of_lt hk)] at hp
  exact ⟨p, hp, hwrites⟩

/-- A history that writes the byte before it reads it keeps the machines alike, and the write makes
them equal. -/
theorem AgreeExcept.performAll (h : n.AgreeExcept a m) {requests : List HostRequest}
    (hfirst : m.WrittenFirst a requests) :
    (n.performAll requests).2 = (m.performAll requests).2 ∧
      AgreeExcept a (n.performAll requests).1 (m.performAll requests).1 ∧
      ((∃ p ∈ m.moments requests, p.Writes a) →
        (n.performAll requests).1 = (m.performAll requests).1) := by
  induction requests generalizing n m with
  | nil => exact ⟨rfl, h, fun ⟨_, hp, _⟩ => absurd hp List.not_mem_nil⟩
  | cons r rest ih =>
    obtain ⟨hreply, hagree, hequal⟩ := h.perform (not_reads_of_writtenFirst hfirst)
    rw [Machine.performAll, Machine.performAll, hreply]
    by_cases hwrites : (Moment.mk m r).Writes a
    · rw [hequal hwrites]
      exact ⟨rfl, .refl a _, fun _ => rfl⟩
    · obtain ⟨hreplies, hlast, hlater⟩ := ih hagree (hfirst.tail hwrites)
      refine ⟨by rw [hreplies], hlast, ?_⟩
      rintro ⟨p, hp, hpwrites⟩
      rw [moments, List.mem_cons] at hp
      rcases hp with rfl | hp
      · exact absurd hpwrites hwrites
      · exact hlater ⟨p, hp, hpwrites⟩

end Machine

/-- A byte that no step reads before a step has written it has no influence. Two machines that
differ in such a byte alone give the same answer to every request, with the same faults and the same
beeps, and at every moment they differ in that byte alone again; once a step has written it they are
equal. -/
theorem unread_byte_irrelevant {n m : Machine} {a : Nat} (h : n.AgreeExcept a m)
    (requests : List HostRequest) (hfirst : m.WrittenFirst a requests) :
    (n.performAll requests).2 = (m.performAll requests).2 ∧
    ∀ before, before <+: requests →
      (n.performAll before).1.AgreeExcept a (m.performAll before).1 ∧
      ((∃ p ∈ m.moments before, p.Writes a) →
        (n.performAll before).1 = (m.performAll before).1) :=
  ⟨(h.performAll hfirst).1, fun _ hbefore => (h.performAll (hfirst.of_isPrefix hbefore)).2⟩

/-- A program that clears the byte behind it, loads it back and then executes it does the same
whatever the byte was. -/
theorem unread_byte_irrelevant_cleared :
    let m := ((Machine.initial (.ofList [])).performAll [.load
      [0xA2, 0x0A, 0x60, 0x00, 0xF0, 0x55, 0xA2, 0x0A, 0xF0, 0x65, 0x00, 0xE0]]).1
    let memory : Memory := ⟨m.state.memory.bytes.set 0x20A 0xFF (by decide)⟩
    let n : Machine := { m with state := { m.state with memory } }
    let requests : List HostRequest :=
      [.step, .press 5 true, .step, .step, .tick, .step, .step, .step]
    n.AgreeExcept 0x20A m ∧ m.WrittenFirst 0x20A requests ∧
    (m.moments requests)[7]?.any (fun p => p.Reads 0x20A) ∧
    (n.performAll requests).2 = (m.performAll requests).2 ∧
    (n.performAll requests).1 = (m.performAll requests).1 := by
  intro m memory n requests
  have agree : n.AgreeExcept 0x20A m := by
    refine ⟨memory, ?_, rfl⟩
    intro b hb
    by_cases hlt : b < 4096
    · rw [Memory.byteAt_of_lt hlt, Memory.byteAt_of_lt hlt]
      exact Vector.getElem_set_ne (by decide) hlt (Ne.symm hb)
    · simp [Memory.byteAt, hlt]
  obtain ⟨hfirst, hread, hwritten⟩ : m.WrittenFirst 0x20A requests ∧
      (m.moments requests)[7]?.any (fun p => p.Reads 0x20A) ∧
      (m.moments requests)[3]?.any (fun p => p.Writes 0x20A) := by
    decide +kernel
  obtain ⟨p, hp, hpwrites⟩ := (Option.any_eq_true _ _).1 hwritten
  have written : ∃ p ∈ m.moments requests, p.Writes 0x20A :=
    ⟨p, List.mem_of_getElem? hp, of_decide_eq_true hpwrites⟩
  obtain ⟨same, later⟩ := unread_byte_irrelevant agree requests hfirst
  exact ⟨agree, hfirst, hread, same, (later requests (List.prefix_refl _)).2 written⟩

end ChipEight
