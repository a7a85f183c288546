import ChipEight.Proofs.RequestHistories

/-!
# Bounds of reachable machines

Program counter, index register and return addresses are 16-bit words, but no program drives them
past `0x10FE`, `0x7FFF` and `0x1000`. The bounds hold jointly or not at all: a return restores what
a call once stored, and the index register moves behind a block only when the block was inside
memory. Each instruction keeps them from the state behind its fetch, and so does every request.
-/

namespace ChipEight

/-- The bounds that no program leaves. -/
structure State.Bounded (s : State) : Prop where
  index_le : s.index.toNat ≤ 0x7FFF
  pc_le : s.pc.toNat ≤ 0x10FE
  slots_le : ∀ k (hk : k < 16), s.stack.slots[k].toNat ≤ 0x1000

/-- The bounds of a state behind a fetch, from which an instruction executes. -/
structure State.Executing (s : State) : Prop extends State.Bounded s where
  two_le_pc : 2 ≤ s.pc.toNat
  pc_le_size : s.pc.toNat ≤ 0x1000

namespace State

variable {s t : State}

private theorem Bounded.of_eq (h : s.Bounded) (hindex : t.index = s.index) (hpc : t.pc = s.pc)
    (hstack : t.stack = s.stack) : t.Bounded := by
  constructor
  · rw [hindex]
    exact h.index_le
  · rw [hpc]
    exact h.pc_le
  · rw [hstack]
    exact h.slots_le

theorem Bounded.fetched (h : s.Bounded) (hfits : s.pc.toNat + 2 ≤ 4096) : s.fetched.Executing := by
  have hpc := toNat_pc_fetched hfits
  refine ⟨⟨h.index_le, ?_, h.slots_le⟩, ?_, ?_⟩ <;> omega

private theorem toNat_ofNat_le {n bound : Nat} (h : n ≤ bound) (hbound : bound < 65536) :
    (UInt16.ofNat n).toNat ≤ bound := by
  rw [UInt16.toNat_ofNat_of_lt' (by simp only [UInt16.size]; omega)]
  exact h

private theorem Executing.with_pc (h : s.Executing) {pc : UInt16} (hpc : pc.toNat ≤ 0x10FE) :
    Bounded { s with pc } :=
  ⟨h.index_le, hpc, h.slots_le⟩

private theorem Executing.with_index (h : s.Executing) {index : UInt16}
    (hindex : index.toNat ≤ 0x7FFF) :
    Bounded { s with index } :=
  ⟨hindex, h.pc_le, h.slots_le⟩

theorem Executing.pop (h : s.Executing) {a : UInt16} (hpop : s.pop = .ok (a, t)) :
    Bounded { t with pc := a } := by
  obtain ⟨stack, hstack, rfl⟩ := pop_eq_ok_iff.1 hpop
  obtain ⟨_, hslots, htop⟩ := CallStack.slots_pop? hstack
  obtain ⟨hlt, rfl⟩ := Vector.getElem?_eq_some_iff.1 htop
  refine ⟨h.index_le, ?_, ?_⟩
  · exact Nat.le_trans (h.slots_le _ hlt) (by decide)
  · rw [hslots]
    exact h.slots_le

theorem Executing.push (h : s.Executing) (hpush : s.push s.pc = .ok t) (a : Address) :
    Bounded { t with pc := UInt16.ofNat a.val } := by
  obtain ⟨stack, hstack, rfl⟩ := push_eq_ok_iff.1 hpush
  obtain ⟨_, _, hslots⟩ := CallStack.slots_push? hstack
  refine ⟨h.index_le, ?_, ?_⟩
  · exact toNat_ofNat_le (by omega) (by omega)
  · intro k hk
    rw [hslots k hk]
    split
    · exact h.pc_le_size
    · exact h.slots_le k hk

theorem Executing.skipNext (h : s.Executing) : s.skipNext.Bounded := by
  apply h.with_pc
  have := h.pc_le_size
  simp only [UInt16.toNat_add, UInt16.reduceToNat]
  omega

theorem Executing.awaitKey (h : s.Executing) (keypad : Keypad) (x : Register) :
    (s.awaitKey keypad x).Bounded := by
  rw [State.awaitKey]
  split
  · exact h.toBounded.of_eq rfl rfl rfl
  -- Behind a fetch the counter is at least two, so it does not wrap on its way back.
  · apply h.with_pc
    have := h.two_le_pc
    have := h.pc_le_size
    have hle : (2 : UInt16) ≤ s.pc := UInt16.le_iff_toNat_le.2 h.two_le_pc
    rw [UInt16.toNat_sub_of_le _ _ hle]
    omega

theorem Executing.advanceIndexBy (h : s.Executing) (hindex : t.index = s.index) (hpc : t.pc = s.pc)
    (hstack : t.stack = s.stack) {count : Nat} (hcount : count ≠ 0)
    (inside : Memory.Inside s.index.toNat count) : (t.advanceIndexBy count).Bounded := by
  refine ⟨?_, ?_, ?_⟩
  · have hfits : s.index.toNat + count ≤ 4096 := inside.resolve_left hcount
    simp only [State.advanceIndexBy, hindex, UInt16.toNat_add, UInt16.toNat_ofNat']
    omega
  · exact hpc ▸ h.pc_le
  · exact hstack ▸ h.slots_le

end State

theorem Instruction.execute_bounded (i : Instruction) {keypad : Keypad} {randomByte : UInt8}
    {s t : State} (hs : s.Executing) (h : i.execute keypad randomByte s = .ok t) : t.Bounded := by
  cases i with
  | ret =>
    obtain ⟨_, hpop, rfl⟩ := Fault.map_eq_ok_iff.1 h
    exact hs.pop hpop
  | call a =>
    obtain ⟨_, hpush, rfl⟩ := Fault.map_eq_ok_iff.1 h
    exact hs.push hpush a
  | jump a =>
    cases h
    exact hs.with_pc (State.toNat_ofNat_le (by omega) (by omega))
  | jumpFrom a =>
    cases h
    have := (s.register 0).toNat_lt
    exact hs.with_pc (State.toNat_ofNat_le (by omega) (by omega))
  | skip c =>
    cases h
    split
    · exact hs.skipNext
    · exact hs.toBounded
  | awaitKey x =>
    cases h
    exact hs.awaitKey keypad x
  | setIndex a =>
    cases h
    exact hs.with_index (State.toNat_ofNat_le (by omega) (by omega))
  | advanceIndex x =>
    cases h
    exact hs.with_index (State.toNat_ofNat_le (by rw [indexModulus]; omega) (by omega))
  | pointAtGlyph x =>
    cases h
    have := (s.register x).toNat_lt
    exact hs.with_index (State.toNat_ofNat_le (by rw [Memory.glyphHeight]; omega) (by omega))
  | draw x y n =>
    rw [execute, State.drawSprite_eq] at h
    split at h
    · cases h
      exact hs.toBounded.of_eq rfl rfl rfl
    · cases h
  | storeDigits x =>
    rw [execute, State.store_eq] at h
    split at h
    · cases h
      exact hs.toBounded.of_eq rfl rfl rfl
    · cases h
  | storeThrough x =>
    rw [execute, State.store_eq, length_registersThrough] at h
    split at h
    · next inside =>
      cases h
      refine hs.advanceIndexBy ?_ ?_ ?_ (by omega) inside <;> rfl
    · cases h
  | loadThrough x =>
    rw [execute, State.loadThrough_eq] at h
    split at h
    · next inside =>
      cases h
      refine hs.advanceIndexBy ?_ ?_ ?_ (by omega) inside <;> rfl
    · cases h
  | arithmetic op x y =>
    cases h
    exact hs.toBounded.of_eq (by simp) (by simp) (by simp)
  | _ =>
    cases h
    exact hs.toBounded.of_eq rfl rfl rfl

namespace Machine

theorem initial_bounded (random : RandomSource) : (initial random).state.Bounded := by
  refine ⟨Nat.zero_le _, ?_, fun k hk => ?_⟩
  · show (UInt16.ofNat Memory.programStart).toNat ≤ 0x10FE
    decide
  · simp [initial, State.initial, CallStack.empty]

/-- A request keeps the bounds, whether it succeeds or not. -/
theorem perform_bounded (m : Machine) (r : HostRequest) (h : m.state.Bounded) :
    (m.perform r).1.state.Bounded := by
  rcases m.perform_cases r with same | reset | ⟨memory, loaded⟩ | ⟨keypad, pressed⟩ | stepped |
    ticked
  · rw [same]
    exact h
  · rw [reset]
    exact initial_bounded m.random
  · rw [loaded]
    exact h.of_eq rfl rfl rfl
  · rw [pressed]
    exact h
  · obtain ⟨hfits, i, next, _, hnext, hm⟩ := step_eq_ok_iff.1 stepped
    rw [hm]
    exact i.execute_bounded (h.fetched hfits) hnext
  · rw [ticked]
    exact h.of_eq rfl rfl rfl

theorem Reachable.bounded {m : Machine} (h : m.Reachable) : m.state.Bounded :=
  h.keeps initial_bounded perform_bounded

end Machine
end ChipEight
