import ChipEight.Proofs.StepFrames

/-!
# Blocks of registers in memory

A store writes the registers up to a given one as a block at the index register, and moves the
index register behind the block. So stores one after the other, whatever is put into the registers
in between, lay their blocks side by side until one of them would leave memory. Loads move the index
register in the same way: from the same start they come across the same blocks.
-/

namespace ChipEight

theorem overlay_append {α : Type} {n : Nat} (cells : Vector α n) (start : Nat)
    (first second : List α) :
    overlay cells start (first ++ second) =
      overlay (overlay cells start first) (start + first.length) second := by
  induction first generalizing cells start with
  | nil => rfl
  | cons a rest ih =>
    rw [List.cons_append, overlay, overlay, ih, List.length_cons, Nat.add_right_comm,
      Nat.add_assoc]

namespace Memory

variable (m : Memory) (start : Nat)

theorem window_add (first second : Nat) :
    m.window start (first + second) = m.window start first ++ m.window (start + first) second := by
  simp only [window, List.range_add, List.map_append, List.map_map, Function.comp_def,
    Nat.add_assoc]

theorem overlay_window (length : Nat) : ⟨overlay m.bytes start (m.window start length)⟩ = m := by
  apply ext_byteAt
  intro b hb
  rw [byteAt_overlay m start _ hb]
  split
  · next hstart =>
    by_cases hcovered : b - start < length
    · simp [window, hcovered, Nat.add_sub_cancel' hstart]
    · rw [List.getElem?_eq_none (by simpa using hcovered), Option.getD_none]
  · rfl

end Memory

theorem State.registersThrough_loaded (s : State) (x : Register) :
    (s.loaded x).registersThrough x = s.memory.window s.index.toNat (x.val + 1) := by
  apply List.ext_getElem
  · rw [Instruction.length_registersThrough, Memory.length_window]
  · intro k hk hk'
    rw [Instruction.length_registersThrough] at hk
    simp only [registersThrough, loaded, List.getElem_take, Vector.getElem_toList, getElem_overlay]
    rw [if_pos (Nat.zero_le k), Nat.sub_zero, List.getElem?_eq_getElem hk', Option.getD_some]

/-- The two directions in which a block is transferred between registers and memory. -/
inductive Transfer where
  | store
  | load

def Transfer.instruction : Transfer → Register → Instruction
  | .store, x => .storeThrough x
  | .load, x => .loadThrough x

/-- One transfer of a series: the last register of its block, and all that it finds besides the
index register and memory, which the transfer before it leaves. -/
structure Turn where
  last : Register
  found : State
  keypad : Keypad
  randomByte : UInt8

namespace Turn

def size (t : Turn) : Nat := t.last.val + 1

/-- The registers that a store finds, up to its last one. -/
def block (t : Turn) : List UInt8 := t.found.registersThrough t.last

/-- The number of bytes of several blocks. -/
def total : List Turn → Nat
  | [] => 0
  | t :: rest => t.size + total rest

def ready (t : Turn) (s : State) : State := { t.found with index := s.index, memory := s.memory }

def execute (t : Turn) (direction : Transfer) (s : State) : Except Fault State :=
  (direction.instruction t.last).execute t.keypad t.randomByte (t.ready s)

def behind (t : Turn) (direction : Transfer) (s : State) : State :=
  (direction.instruction t.last).effect t.keypad t.randomByte (t.ready s)

variable {t : Turn} {direction : Transfer} {s : State} {turns later : List Turn}

@[simp] theorem length_block (t : Turn) : t.block.length = t.size :=
  Instruction.length_registersThrough t.found t.last

private theorem size_pos (t : Turn) : 0 < t.size := Nat.succ_pos _

private theorem total_append : total (turns ++ later) = total turns + total later := by
  induction turns with
  | nil => exact (Nat.zero_add _).symm
  | cons t rest ih => rw [List.cons_append, total, ih, total, Nat.add_assoc]

private theorem length_flatMap_block (turns : List Turn) :
    (turns.flatMap block).length = total turns := by
  induction turns with
  | nil => rfl
  | cons t rest ih => rw [List.flatMap_cons, List.length_append, length_block, ih, total]

private theorem total_take_le {j k : Nat} (h : j ≤ k) (turns : List Turn) :
    total (turns.take j) ≤ total (turns.take k) := by
  rw [← List.take_append_drop j (turns.take k), List.take_take, Nat.min_eq_left h, total_append]
  exact Nat.le_add_right _ _

private theorem length_le_total (turns : List Turn) : turns.length ≤ total turns := by
  induction turns with
  | nil => exact Nat.zero_le _
  | cons t rest ih =>
    have := t.size_pos
    rw [List.length_cons, total]
    omega

private theorem total_eq_zero_iff : total turns = 0 ↔ turns = [] := by
  constructor
  · intro h
    exact List.eq_nil_of_length_eq_zero (Nat.eq_zero_of_le_zero (h ▸ length_le_total turns))
  · rintro rfl
    rfl

private theorem total_take_add_one {k : Nat} (h : turns[k]? = some t) :
    total (turns.take (k + 1)) = total (turns.take k) + t.size := by
  rw [List.take_add_one, h, total_append, Option.toList_some, total, total, Nat.add_zero]

private theorem total_congr (h : turns.map last = later.map last) : total turns = total later := by
  induction turns generalizing later with
  | nil => rw [List.map_eq_nil_iff.1 h.symm]
  | cons t rest ih =>
    obtain ⟨t', rest', rfl, hlast, hrest⟩ := List.map_eq_cons_iff.1 h.symm
    rw [total, total, ih hrest.symm, size, size, hlast]

/-- Both transfers succeed exactly when the block lies inside memory. -/
theorem execute_eq (t : Turn) (direction : Transfer) (s : State) :
    t.execute direction s =
      if Memory.Inside s.index.toNat t.size then .ok (t.behind direction s)
      else .error (Memory.outside s.index.toNat) := by
  have hfault : (direction.instruction t.last).fault? (t.ready s) =
      Memory.accessFault? s.index.toNat t.size := by
    cases direction <;> rfl
  rw [execute, Instruction.execute_eq, hfault, Memory.accessFault?]
  by_cases inside : Memory.Inside s.index.toNat t.size
  · rw [if_pos inside, if_pos inside, behind]
  · rw [if_neg inside, if_neg inside]

theorem toNat_index_behind (h : Memory.Inside s.index.toNat t.size) :
    (t.behind direction s).index.toNat = s.index.toNat + t.size := by
  rw [Memory.Inside, Memory.size] at h
  have hsize := t.size_pos
  have hfits : s.index.toNat + t.size ≤ 4096 := by omega
  have hindex : (t.behind direction s).index = (s.advanceIndexBy t.size).index := by
    cases direction <;> rfl
  rw [hindex, s.toNat_index_advanceIndexBy hsize hfits]

end Turn

open Turn

namespace State

/-- Carries out transfers one after the other, up to the first that fails. -/
def inTurn (s : State) (direction : Transfer) : List Turn → Except Fault State
  | [] => .ok s
  | t :: rest =>
    match t.execute direction s with
    | .ok next => next.inTurn direction rest
    | .error fault => .error fault

/-- Whether the transfer at a place of a series, counted from zero, is the first to fail. -/
def FailsAt (s : State) (direction : Transfer) (turns : List Turn) (k : Nat) : Prop :=
  ∃ reached t fault, s.inTurn direction (turns.take k) = .ok reached ∧ turns[k]? = some t ∧
    t.execute direction reached = .error fault

variable {s r : State} {direction : Transfer} {t : Turn} {turns : List Turn}

private theorem inTurn_cons (h : Memory.Inside s.index.toNat t.size) :
    s.inTurn direction (t :: turns) = (t.behind direction s).inTurn direction turns := by
  rw [inTurn, execute_eq, if_pos h]

/-- A series of transfers succeeds exactly when all its blocks together lie inside memory. -/
theorem exists_inTurn_iff :
    (∃ r, s.inTurn direction turns = .ok r) ↔ Memory.Inside s.index.toNat (total turns) := by
  induction turns generalizing s with
  | nil => exact ⟨fun _ => .inl rfl, fun _ => ⟨s, rfl⟩⟩
  | cons t rest ih =>
    have := t.size_pos
    by_cases inside : Memory.Inside s.index.toNat t.size
    · rw [inTurn_cons inside, ih, toNat_index_behind inside, total]
      simp only [Memory.Inside, Memory.size] at inside ⊢
      omega
    · rw [inTurn, execute_eq, if_neg inside, total]
      simp only [Memory.Inside, Memory.size, reduceCtorEq, exists_false, false_iff] at inside ⊢
      omega

theorem inTurn_induction {P : State → List Turn → Prop} (h : s.inTurn direction turns = .ok r)
    (base : P r []) (step : ∀ s t rest, Memory.Inside s.index.toNat t.size →
      P (t.behind direction s) rest → P s (t :: rest)) : P s turns := by
  induction turns generalizing s with
  | nil =>
    cases h
    exact base
  | cons t rest ih =>
    by_cases inside : Memory.Inside s.index.toNat t.size
    · rw [inTurn_cons inside] at h
      exact step s t rest inside (ih h)
    · rw [inTurn, execute_eq, if_neg inside] at h
      cases h

theorem toNat_index_inTurn (h : s.inTurn direction turns = .ok r) :
    r.index.toNat = s.index.toNat + total turns := by
  refine inTurn_induction (P := fun s turns => r.index.toNat = s.index.toNat + total turns) h rfl ?_
  intro s t rest inside ih
  rw [ih, toNat_index_behind inside, total, Nat.add_assoc]

theorem memory_inTurn_store (h : s.inTurn .store turns = .ok r) :
    r.memory = ⟨overlay s.memory.bytes s.index.toNat (turns.flatMap block)⟩ := by
  refine inTurn_induction (P := fun s turns =>
    r.memory = ⟨overlay s.memory.bytes s.index.toNat (turns.flatMap block)⟩) h rfl ?_
  intro s t rest inside ih
  rw [ih, toNat_index_behind inside, List.flatMap_cons, overlay_append, length_block]
  rfl

theorem memory_inTurn_load (h : s.inTurn .load turns = .ok r) : r.memory = s.memory := by
  refine inTurn_induction (P := fun s _ => r.memory = s.memory) h rfl ?_
  intro s t rest _ ih
  exact ih

theorem failsAt_iff {k : Nat} (hk : k < turns.length) :
    s.FailsAt direction turns k ↔
      Memory.size < s.index.toNat + total (turns.take (k + 1)) ∧
        ∀ j ≤ k, 0 < j → s.index.toNat + total (turns.take j) ≤ Memory.size := by
  obtain ⟨t, ht⟩ : ∃ t, turns[k]? = some t := ⟨_, List.getElem?_eq_getElem hk⟩
  have := t.size_pos
  have hcount := length_le_total (turns.take k)
  rw [List.length_take, Nat.min_eq_left (Nat.le_of_lt hk)] at hcount
  rw [total_take_add_one ht]
  constructor
  · rintro ⟨reached, _, fault, hreached, ht', hfail⟩
    cases ht.symm.trans ht'
    have inside := exists_inTurn_iff.1 ⟨reached, hreached⟩
    have outside : ¬ Memory.Inside reached.index.toNat t.size := fun h => by
      rw [execute_eq, if_pos h] at hfail
      cases hfail
    rw [toNat_index_inTurn hreached] at outside
    simp only [Memory.Inside, Memory.size] at inside outside ⊢
    refine ⟨by omega, fun j hj hpos => ?_⟩
    have := total_take_le hj turns
    omega
  · rintro ⟨hleaves, hstays⟩
    have inside : Memory.Inside s.index.toNat (total (turns.take k)) := by
      rcases Nat.eq_zero_or_pos k with rfl | hpos
      · exact .inl rfl
      · exact .inr (hstays k (Nat.le_refl k) hpos)
    obtain ⟨reached, hreached⟩ := exists_inTurn_iff.2 inside
    have outside : ¬ Memory.Inside reached.index.toNat t.size := by
      rw [toNat_index_inTurn hreached, Memory.Inside]
      omega
    exact ⟨reached, t, _, hreached, ht, by rw [execute_eq, if_neg outside]⟩

private theorem window_total_inTurn_store (h : s.inTurn .store turns = .ok r) :
    r.memory.window s.index.toNat (total turns) = turns.flatMap block := by
  rw [memory_inTurn_store h, ← length_flatMap_block]
  rcases exists_inTurn_iff.1 ⟨r, h⟩ with hzero | hfits
  · rw [← length_flatMap_block] at hzero
    rw [List.eq_nil_of_length_eq_zero hzero]
    rfl
  · rw [← length_flatMap_block] at hfits
    exact Memory.window_overlay s.memory hfits

theorem window_inTurn_store {k : Nat} (h : s.inTurn .store turns = .ok r)
    (ht : turns[k]? = some t) :
    r.memory.window (s.index.toNat + total (turns.take k)) t.size = t.block := by
  have hwhole := window_total_inTurn_store h
  have hsplit : turns = turns.take k ++ t :: turns.drop (k + 1) := by
    have hdrop : turns.drop k = t :: turns.drop (k + 1) := by
      rw [List.drop_eq_getElem?_toList_append, ht]
      rfl
    rw [← hdrop, List.take_append_drop]
  rw [hsplit, total_append, total, List.flatMap_append, List.flatMap_cons, Memory.window_add,
    Memory.window_add] at hwhole
  obtain ⟨_, hbehind⟩ :=
    List.append_inj hwhole (by rw [Memory.length_window, length_flatMap_block])
  exact (List.append_inj hbehind (by rw [Memory.length_window, length_block])).1

section Reloading

variable {stored back : State} {stores loads : List Turn}

theorem exists_reloaded (hstored : s.inTurn .store stores = .ok stored)
    (hlast : loads.map last = stores.map last) (hindex : back.index = s.index)
    (hmemory : back.memory = stored.memory) :
    ∃ loaded, back.inTurn .load loads = .ok loaded ∧ loaded.index = stored.index ∧
      loaded.memory = stored.memory := by
  have inside := exists_inTurn_iff.1 ⟨stored, hstored⟩
  rw [← total_congr hlast, ← hindex] at inside
  obtain ⟨loaded, hloaded⟩ : ∃ r, back.inTurn .load loads = .ok r := exists_inTurn_iff.2 inside
  refine ⟨loaded, hloaded, UInt16.toNat_inj.1 ?_, (memory_inTurn_load hloaded).trans hmemory⟩
  rw [toNat_index_inTurn hloaded, toNat_index_inTurn hstored, total_congr hlast, hindex]

/-- Each load comes across the block of the store in its place. -/
theorem exists_reloaded_block {store load : Turn} {k : Nat}
    (hstored : s.inTurn .store stores = .ok stored) (hlast : loads.map last = stores.map last)
    (hindex : back.index = s.index) (hmemory : back.memory = stored.memory)
    (hstore : stores[k]? = some store) (hload : loads[k]? = some load) :
    ∃ before after, back.inTurn .load (loads.take k) = .ok before ∧
      load.execute .load before = .ok after ∧
      after.registersThrough load.last = store.block ∧
      ∀ r, load.last < r → after.register r = load.found.register r := by
  have hsize : load.size = store.size := by
    have hk := congrArg (·[k]?) hlast
    have hsame : load.last = store.last := by simpa [hstore, hload] using hk
    rw [Turn.size, Turn.size, hsame]
  have htake : total (loads.take k) = total (stores.take k) :=
    total_congr (by rw [List.map_take, List.map_take, hlast])
  have inside := exists_inTurn_iff.1 ⟨stored, hstored⟩
  have hfits := total_take_le (Nat.succ_le_of_lt (List.getElem?_eq_some_iff.1 hstore).1) stores
  rw [List.take_length, total_take_add_one hstore] at hfits
  have insideBefore : Memory.Inside back.index.toNat (total (loads.take k)) := by
    rw [htake, hindex]
    simp only [Memory.Inside] at inside ⊢
    omega
  obtain ⟨before, hbefore⟩ : ∃ r, back.inTurn .load (loads.take k) = .ok r :=
    exists_inTurn_iff.2 insideBefore
  have hreached : before.index.toNat = s.index.toNat + total (stores.take k) := by
    rw [toNat_index_inTurn hbefore, htake, hindex]
  have insideLoad : Memory.Inside before.index.toNat load.size := by
    have := store.size_pos
    rw [hreached, hsize]
    simp only [Memory.Inside] at inside ⊢
    omega
  refine ⟨before, load.behind .load before, hbefore, ?_, ?_, fun r hr => ?_⟩
  · rw [execute_eq, if_pos insideLoad]
  · calc (load.behind .load before).registersThrough load.last
      _ = before.memory.window before.index.toNat load.size :=
        (load.ready before).registersThrough_loaded load.last
      _ = stored.memory.window (s.index.toNat + total (stores.take k)) store.size := by
        rw [memory_inTurn_load hbefore, hmemory, hreached, hsize]
      _ = store.block := window_inTurn_store hstored hstore
  · exact (load.ready before).register_loaded (Nat.not_le_of_lt hr)

end Reloading

theorem stored_loaded (s : State) (x : Register) (pc : UInt16) :
    ({ s.loaded x with pc }.stored ((s.loaded x).registersThrough x)).memory = s.memory := by
  rw [registersThrough_loaded]
  exact s.memory.overlay_window s.index.toNat (x.val + 1)

end State

/-- Stores one after the other, each with registers of its own, lay their blocks side by side from
the index register on, move it behind the last one, and change no other byte. They succeed as long
as all the bytes lie inside memory; the first block that does not is the first to fail, and a step
that fails so leaves the machine as it was. From the same start, in the same memory, loads of the
same lengths then all succeed, end at the same place, and each gives back the registers of the store
in its place and leaves the higher ones. The other way around, storing what was loaded changes
nothing. -/
theorem blocks_tile_memory :
    (∀ (s : State) (stores : List Turn),
      ((∃ stored, s.inTurn .store stores = .ok stored) ↔
        stores = [] ∨ s.index.toNat + total stores ≤ Memory.size) ∧
      (∀ k < stores.length, s.FailsAt .store stores k ↔
        Memory.size < s.index.toNat + total (stores.take (k + 1)) ∧
          ∀ j ≤ k, 0 < j → s.index.toNat + total (stores.take j) ≤ Memory.size) ∧
      ∀ stored, s.inTurn .store stores = .ok stored →
        stored.index.toNat = s.index.toNat + total stores ∧
        stored.memory.window s.index.toNat (total stores) = stores.flatMap block ∧
        (∀ a, ¬ Memory.Covers s.index.toNat (total stores) a →
          stored.memory.byteAt a = s.memory.byteAt a) ∧
        ∀ (loads : List Turn) (back : State), loads.map last = stores.map last →
          back.index = s.index → back.memory = stored.memory →
          (∃ loaded, back.inTurn .load loads = .ok loaded ∧ loaded.index = stored.index ∧
            loaded.memory = stored.memory) ∧
          ∀ k store load, stores[k]? = some store → loads[k]? = some load →
            ∃ before after, back.inTurn .load (loads.take k) = .ok before ∧
              load.execute .load before = .ok after ∧
              after.registersThrough load.last = store.block ∧
              ∀ r, load.last < r → after.register r = load.found.register r) ∧
    (∀ (m : Machine) (x : Register), m.state.instruction? = some (.storeThrough x) →
      Memory.size < m.state.index.toNat + (x.val + 1) →
      m.perform .step = (m, ⟨some (.outOfBounds (max m.state.index.toNat Memory.size)), false⟩)) ∧
    ∀ (s loaded : State) (x : Register) (keypad : Keypad) (randomByte : UInt8),
      (Instruction.loadThrough x).execute keypad randomByte s = .ok loaded →
      ∀ (keypad' : Keypad) (randomByte' : UInt8) (pc : UInt16), ∃ stored,
        (Instruction.storeThrough x).execute keypad' randomByte'
          { loaded with index := s.index, pc } = .ok stored ∧
        stored.memory = s.memory := by
  refine ⟨fun s stores => ⟨?_, fun k hk => State.failsAt_iff hk, fun stored hstored => ?_⟩, ?_, ?_⟩
  · rw [State.exists_inTurn_iff, Memory.Inside, total_eq_zero_iff]
  · refine ⟨State.toNat_index_inTurn hstored, State.window_total_inTurn_store hstored, ?_, ?_⟩
    · intro a ha
      rw [State.memory_inTurn_store hstored]
      rw [← length_flatMap_block] at ha
      exact s.memory.byteAt_overlay_of_not_covers ha
    · intro loads back hlast hindex hmemory
      exact ⟨State.exists_reloaded hstored hlast hindex hmemory,
        fun k store load => State.exists_reloaded_block hstored hlast hindex hmemory⟩
  · intro m x hnext houtside
    have hfault : Fault.of? m.step =
        some (.outOfBounds (max m.state.index.toNat Memory.size)) := by
      rw [Machine.of?_step, State.fault?_of_instruction hnext]
      exact Memory.accessFault?_eq_some_iff.2 ⟨Nat.succ_pos _, houtside, rfl⟩
    rw [Machine.perform, Fault.of?_eq_some_iff.1 hfault, Machine.settle]
  · intro s loaded x keypad randomByte hloaded keypad' randomByte' pc
    obtain ⟨hfault, rfl⟩ := Instruction.execute_eq_ok_iff.1 hloaded
    exact ⟨_, Instruction.execute_eq_ok_iff.2 ⟨hfault, rfl⟩, s.stored_loaded x pc⟩

/-- Two blocks of three bytes altogether fill memory to its end, a third one does not fit, and the
second one can be loaded again. A glyph that was loaded can be stored. -/
theorem blocks_tile_memory_end :
    let full (b : UInt8) : State := { State.initial with registers := Vector.replicate 16 b }
    let two : Turn := ⟨1, full 7, .released, 0⟩
    let one : Turn := ⟨0, full 9, .released, 0⟩
    let start : State := { State.initial with index := 0xFFD }
    let m := ((Machine.initial (.ofList [])).performAll
      [.load [0xAF, 0xFF, 0xF1, 0x55], .step]).1
    (∃ stored, start.inTurn .store [two, one] = .ok stored ∧
      stored.memory.window 0xFFD 3 = [7, 7, 9] ∧
      stored.memory.byteAt 0 = 0xF0 ∧
      ∃ before after, State.inTurn { stored with index := 0xFFD } .load [two] = .ok before ∧
        { one with found := full 7 }.execute .load before = .ok after ∧
        after.registersThrough 0 = [9] ∧ after.register 1 = 7) ∧
    start.FailsAt .store [two, one, one] 2 ∧
    m.perform .step = (m, ⟨some (.outOfBounds 4096), false⟩) ∧
    ∃ stored, (Instruction.storeThrough 4).execute .released 0
        { (State.initial.loaded 4).advanceIndexBy 5 with index := 0, pc := 0x202 } = .ok stored ∧
      stored.memory = State.initial.memory := by
  intro full two one start m
  obtain ⟨series, failing, storedBack⟩ := blocks_tile_memory
  obtain ⟨succeeds, _, tiles⟩ := series start [two, one]
  obtain ⟨_, fails, _⟩ := series start [two, one, one]
  refine ⟨?_, (fails 2 (by decide)).2 (by decide), ?_, ?_⟩
  · obtain ⟨stored, hstored⟩ := succeeds.2 (.inr (by decide))
    obtain ⟨_, hwindow, hother, reload⟩ := tiles stored hstored
    obtain ⟨_, hblock⟩ := reload [two, { one with found := full 7 }] { stored with index := 0xFFD }
      rfl rfl rfl
    obtain ⟨before, after, hbefore, hload, hafter, hhigher⟩ :=
      hblock 1 one { one with found := full 7 } rfl rfl
    refine ⟨stored, hstored, hwindow, ?_, before, after, hbefore, hload, hafter,
      hhigher 1 (by decide)⟩
    rw [hother 0 (by decide)]
    decide +kernel
  · obtain ⟨hnext, hindex⟩ : m.state.instruction? = some (.storeThrough 1) ∧
        m.state.index.toNat = 0xFFF := by
      decide +kernel
    have hfails := failing m 1 hnext (by rw [hindex]; decide)
    rw [hindex] at hfails
    exact hfails
  · have hloaded : (Instruction.loadThrough 4).execute .released 0 State.initial =
        .ok ((State.initial.loaded 4).advanceIndexBy 5) :=
      Instruction.execute_eq_ok_iff.2 ⟨rfl, rfl⟩
    exact storedBack State.initial _ 4 .released 0 hloaded .released 0 0x202

end ChipEight
