import ChipEight.Proofs.StateAccess

/-!
# Requests to the call stack

Calls and returns use the call stack as a list of at most sixteen addresses, which grows and shrinks
at its end. Only the slots in use stand for the list: what an address that was taken back leaves
behind is never seen again. The list itself gives every address back before those that it kept
earlier.
-/

namespace ChipEight

inductive StackRequest where
  | push (address : UInt16)
  | pop

/-- What a request is answered with: the address that is taken back, if it asks for one, or a
fault. -/
abbrev StackReply := Except Fault (Option UInt16)

/-- Carries out requests one after the other. -/
def StackRequest.performAll {σ : Type} (perform : σ → StackRequest → σ × StackReply) (s : σ) :
    List StackRequest → σ × List StackReply
  | [] => (s, [])
  | r :: rest =>
    let first := perform s r
    let others := performAll perform first.1 rest
    (others.1, first.2 :: others.2)

/-- A list of at most sixteen addresses, the most recent one last, and the program counter that its
faults report. -/
@[ext] structure AddressList where
  pc : UInt16
  addresses : List UInt16
  deriving DecidableEq

namespace AddressList

def perform (l : AddressList) : StackRequest → AddressList × StackReply
  | .push a =>
    if l.addresses.length = 16 then (l, .error (.stackOverflow l.pc 16))
    else ({ l with addresses := l.addresses ++ [a] }, .ok none)
  | .pop =>
    match l.addresses.getLast? with
    | some a => ({ l with addresses := l.addresses.dropLast }, .ok (some a))
    | none => (l, .error (.stackUnderflow l.pc))

def performAll : AddressList → List StackRequest → AddressList × List StackReply :=
  StackRequest.performAll perform

end AddressList

namespace State

/-- The state behind a request, which is the same one if the request fails. -/
def perform (s : State) : StackRequest → State × StackReply
  | .push a =>
    match s.push a with
    | .ok next => (next, .ok none)
    | .error fault => (s, .error fault)
  | .pop =>
    match s.pop with
    | .ok (a, next) => (next, .ok (some a))
    | .error fault => (s, .error fault)

def performAll : State → List StackRequest → State × List StackReply :=
  StackRequest.performAll perform

/-- The list that the slots in use stand for. -/
def addressList (s : State) : AddressList := ⟨s.pc, s.stack.toList⟩

end State

namespace StackRequest

variable {σ τ : Type} {perform : σ → StackRequest → σ × StackReply}
  {perform' : τ → StackRequest → τ × StackReply}

theorem performAll_view {view : σ → τ}
    (h : ∀ s r, (view (perform s r).1, (perform s r).2) = perform' (view s) r)
    (s : σ) (requests : List StackRequest) :
    (view (performAll perform s requests).1, (performAll perform s requests).2) =
      performAll perform' (view s) requests := by
  induction requests generalizing s with
  | nil => rfl
  | cons r rest ih =>
    simp only [performAll]
    rw [← h s r, ← ih]

theorem performAll_keeps {P : σ → Prop} (keeps : ∀ s r, P s → P (perform s r).1) {s : σ} (h : P s)
    (requests : List StackRequest) : P (performAll perform s requests).1 := by
  induction requests generalizing s with
  | nil => exact h
  | cons r rest ih => exact ih (keeps s r h)

end StackRequest

namespace AddressList

variable {l : AddressList} {kept : List UInt16}

private theorem prefix_perform (h : kept <+: l.addresses) {r : StackRequest}
    (hlong : kept.length ≤ (l.perform r).1.addresses.length) :
    kept <+: (l.perform r).1.addresses := by
  cases r with
  | push a =>
    rw [perform]
    split
    · exact h
    · exact h.trans (List.prefix_append _ _)
  | pop =>
    rw [perform] at hlong ⊢
    split
    · next hlast =>
      rw [hlast] at hlong
      exact List.prefix_of_prefix_length_le h (List.dropLast_prefix _) hlong
    · exact h

private theorem prefix_performAll (h : kept <+: l.addresses) {requests : List StackRequest}
    (hlong : ∀ k ≤ requests.length,
      kept.length ≤ (l.performAll (requests.take k)).1.addresses.length) :
    kept <+: (l.performAll requests).1.addresses := by
  induction requests generalizing l with
  | nil => exact h
  | cons r rest ih =>
    have first : kept <+: (l.perform r).1.addresses :=
      prefix_perform h (hlong 1 (Nat.succ_le_succ (Nat.zero_le _)))
    exact ih first fun k hk => hlong (k + 1) (Nat.succ_le_succ hk)

end AddressList

namespace State

variable {s : State} {r : StackRequest}

private theorem push_eq_error_iff {a : UInt16} {fault : Fault} :
    s.push a = .error fault ↔ s.stack.toList.length = 16 ∧ fault = .stackOverflow s.pc 16 := by
  rw [← Fault.of?_eq_some_iff, of?_push, CallStack.length_toList]
  simp [eq_comm]

private theorem pop_eq_error_iff {fault : Fault} :
    s.pop = .error fault ↔ s.stack.toList = [] ∧ fault = .stackUnderflow s.pc := by
  rw [← Fault.of?_eq_some_iff, of?_pop, ← List.length_eq_zero_iff, CallStack.length_toList]
  simp [eq_comm]

theorem perform_cases (s : State) (r : StackRequest) :
    (∃ a stack, r = .push a ∧ s.stack.push? a = some stack ∧
      s.perform r = ({ s with stack }, .ok none)) ∨
    (∃ a stack, r = .pop ∧ s.stack.pop? = some (a, stack) ∧
      s.perform r = ({ s with stack }, .ok (some a))) ∨
    (∃ a, r = .push a ∧ s.stack.toList.length = 16 ∧
      s.perform r = (s, .error (.stackOverflow s.pc 16))) ∨
    (r = .pop ∧ s.stack.toList = [] ∧ s.perform r = (s, .error (.stackUnderflow s.pc))) := by
  cases r with
  | push a =>
    rw [perform]
    cases hpush : s.push a with
    | ok next =>
      obtain ⟨stack, hstack, rfl⟩ := push_eq_ok_iff.1 hpush
      exact .inl ⟨a, stack, rfl, hstack, rfl⟩
    | error fault =>
      obtain ⟨hfull, rfl⟩ := push_eq_error_iff.1 hpush
      exact .inr (.inr (.inl ⟨a, rfl, hfull, rfl⟩))
  | pop =>
    rw [perform]
    cases hpop : s.pop with
    | ok popped =>
      obtain ⟨a, next⟩ := popped
      obtain ⟨stack, hstack, rfl⟩ := pop_eq_ok_iff.1 hpop
      exact .inr (.inl ⟨a, stack, rfl, hstack, rfl⟩)
    | error fault =>
      obtain ⟨hempty, rfl⟩ := pop_eq_error_iff.1 hpop
      exact .inr (.inr (.inr ⟨rfl, hempty, rfl⟩))

/-- A request does to the slots in use what it does to the list. -/
theorem addressList_perform (s : State) (r : StackRequest) :
    ((s.perform r).1.addressList, (s.perform r).2) = s.addressList.perform r := by
  rcases s.perform_cases r with ⟨a, stack, rfl, hpush, hperform⟩ | ⟨a, stack, rfl, hpop, hperform⟩ |
    ⟨a, rfl, hfull, hperform⟩ | ⟨rfl, hempty, hperform⟩
  · have hfree : ¬ s.stack.toList.length = 16 := by
      have := (CallStack.slots_push? hpush).1
      rw [CallStack.length_toList]
      omega
    simp only [hperform, addressList, AddressList.perform, hfree, ↓reduceIte,
      CallStack.toList_push? hpush]
  · simp only [hperform, addressList, AddressList.perform, CallStack.toList_pop? hpop,
      List.getLast?_concat, List.dropLast_concat]
  · simp only [hperform, addressList, AddressList.perform, hfull, ↓reduceIte]
  · simp only [hperform, addressList, AddressList.perform, hempty, List.getLast?_nil]

theorem addressList_performAll (s : State) (requests : List StackRequest) :
    (s.performAll requests).1.addressList = (s.addressList.performAll requests).1 :=
  congrArg Prod.fst (StackRequest.performAll_view addressList_perform s requests)

theorem replies_performAll (s : State) (requests : List StackRequest) :
    (s.performAll requests).2 = (s.addressList.performAll requests).2 :=
  congrArg Prod.snd (StackRequest.performAll_view addressList_perform s requests)

theorem toList_performAll (s : State) (requests : List StackRequest) :
    (s.performAll requests).1.stack.toList = (s.addressList.performAll requests).1.addresses :=
  congrArg AddressList.addresses (s.addressList_performAll requests)

private theorem perform_of_error {fault : Fault} (h : (s.perform r).2 = .error fault) :
    (s.perform r).1 = s := by
  rcases s.perform_cases r with ⟨_, _, _, _, hperform⟩ | ⟨_, _, _, _, hperform⟩ |
    ⟨_, _, _, hperform⟩ | ⟨_, _, hperform⟩
  · cases hperform ▸ h
  · cases hperform ▸ h
  · rw [hperform]
  · rw [hperform]

theorem perform_with_stack (s : State) (r : StackRequest) :
    (s.perform r).1 = { s with stack := (s.perform r).1.stack } := by
  rcases s.perform_cases r with ⟨_, _, _, _, hperform⟩ | ⟨_, _, _, _, hperform⟩ |
    ⟨_, _, _, hperform⟩ | ⟨_, _, hperform⟩ <;> rw [hperform]

theorem performAll_with_stack (s : State) (requests : List StackRequest) :
    (s.performAll requests).1 = { s with stack := (s.performAll requests).1.stack } := by
  refine StackRequest.performAll_keeps (P := fun t : State => t = { s with stack := t.stack })
    ?_ rfl requests
  intro t r ht
  rw [perform_with_stack, ht]

theorem slots_perform {k : Nat} (hk : k < 16) (h : ∀ a, r = .push a → k ≠ s.stack.depth) :
    (s.perform r).1.stack.slots[k] = s.stack.slots[k] := by
  rcases s.perform_cases r with ⟨a, stack, hr, hpush, hperform⟩ | ⟨_, stack, _, hpop, hperform⟩ |
    ⟨_, _, _, hperform⟩ | ⟨_, _, hperform⟩
  · simp only [hperform, (CallStack.slots_push? hpush).2.2 k hk, if_neg (h a hr)]
  · simp only [hperform, (CallStack.slots_pop? hpop).2.1]
  · rw [hperform]
  · rw [hperform]

/-- An address that is pushed comes back when the call stack is as deep as behind the push again, if
it was at least as deep in between. -/
theorem pop_of_push {pushed : State} {a : UInt16} {between : List StackRequest}
    (hpush : s.push a = .ok pushed)
    (hdeep : ∀ k ≤ between.length,
      s.stack.depth < (pushed.performAll (between.take k)).1.stack.depth)
    (hdepth : (pushed.performAll between).1.stack.depth = s.stack.depth + 1) :
    ∃ back, (pushed.performAll between).1.pop = .ok (a, back) ∧
      back.stack.toList = s.stack.toList := by
  obtain ⟨stack, hstack, hnext⟩ := push_eq_ok_iff.1 hpush
  have hpushed : pushed.stack.toList = s.stack.toList ++ [a] := by
    rw [hnext]
    exact CallStack.toList_push? hstack
  have hkept : s.stack.toList ++ [a] <+: (pushed.performAll between).1.stack.toList := by
    rw [toList_performAll]
    refine AddressList.prefix_performAll (hpushed ▸ List.prefix_rfl) fun k hk => ?_
    rw [← toList_performAll, List.length_append, CallStack.length_toList, CallStack.length_toList]
    exact hdeep k hk
  generalize (pushed.performAll between).1 = last at hkept hdepth ⊢
  have hlast : s.stack.toList ++ [a] = last.stack.toList :=
    hkept.eq_of_length (by simp [hdepth])
  cases hpop : last.pop with
  | error fault =>
    rw [(pop_eq_error_iff.1 hpop).1] at hlast
    simp at hlast
  | ok popped =>
    obtain ⟨b, back⟩ := popped
    obtain ⟨rest, hrest, rfl⟩ := pop_eq_ok_iff.1 hpop
    rw [CallStack.toList_pop? hrest] at hlast
    obtain ⟨hsame, hb⟩ := List.append_inj' hlast rfl
    cases hb
    exact ⟨_, rfl, hsame.symm⟩

end State

/-- Whatever is pushed and popped, the slots in use answer like a list of at most sixteen addresses
and stay what the list is. A push fails where the list has sixteen addresses and a pop where it has
none; a request that fails leaves the state as it was, and one that does not changes the call stack
only, and of its slots at most the first free one. An address that was pushed is the one that is
popped when the list is as long again. States with the same list answer in the same way, whatever is
in the slots that are not in use. -/
theorem call_stack_refines_list (s : State) (requests : List StackRequest) :
    let reached := (s.performAll requests).1
    let listed := (s.addressList.performAll requests).1
    (s.performAll requests).2 = (s.addressList.performAll requests).2 ∧
    reached.stack.toList = listed.addresses ∧
    reached.stack.depth = listed.addresses.length ∧ reached.stack.depth ≤ 16 ∧
    reached = { s with stack := reached.stack } ∧
    (∀ a fault, reached.push a = .error fault ↔
      listed.addresses.length = 16 ∧ fault = .stackOverflow s.pc 16) ∧
    (∀ fault, reached.pop = .error fault ↔
      listed.addresses = [] ∧ fault = .stackUnderflow s.pc) ∧
    (∀ r,
      (∀ fault, (reached.perform r).2 = .error fault → (reached.perform r).1 = reached) ∧
      ∀ k (hk : k < 16), (∀ a, r = .push a → k ≠ reached.stack.depth) →
        (reached.perform r).1.stack.slots[k] = reached.stack.slots[k]) ∧
    (∀ a pushed between, reached.push a = .ok pushed →
      (∀ k ≤ between.length,
        reached.stack.depth < (pushed.performAll (between.take k)).1.stack.depth) →
      (pushed.performAll between).1.stack.depth = reached.stack.depth + 1 →
      ∃ back, (pushed.performAll between).1.pop = .ok (a, back) ∧
        back.stack.toList = reached.stack.toList) ∧
    ∀ other : State, other.addressList = s.addressList →
      (other.performAll requests).2 = (s.performAll requests).2 := by
  intro reached listed
  have hlist : reached.stack.toList = listed.addresses := s.toList_performAll requests
  have hwith : reached = { s with stack := reached.stack } := s.performAll_with_stack requests
  have hpc : reached.pc = s.pc := by rw [hwith]
  refine ⟨s.replies_performAll requests, hlist, ?_, reached.stack.depth_le, hwith,
    fun a fault => ?_, fun fault => ?_,
    fun r => ⟨fun fault => State.perform_of_error, fun k hk => State.slots_perform hk⟩,
    fun a pushed between => State.pop_of_push, fun other hother => ?_⟩
  · rw [← hlist, CallStack.length_toList]
  · rw [State.push_eq_error_iff, hlist, hpc]
  · rw [State.pop_eq_error_iff, hlist, hpc]
  · rw [State.replies_performAll, hother, State.replies_performAll]

/-- A new state and one in which address 7 was pushed and popped answer in the same way. Behind one
more call, address 5 comes back, although address 6 was kept and given back in the meantime. -/
theorem call_stack_refines_list_reused :
    let s := State.initial
    let other := (s.performAll [.push 7, .pop]).1
    let requests : List StackRequest := [.push 1, .pop, .pop, .push 2]
    let reached := (s.performAll requests).1
    let pushed := (reached.perform (.push 5)).1
    let between : List StackRequest := [.push 6, .pop, .push 8, .push 9, .pop, .pop]
    other.addressList = s.addressList ∧
    (other.performAll requests).2 = (s.performAll requests).2 ∧
    (s.performAll requests).2 =
      [.ok none, .ok (some 1), .error (.stackUnderflow 0x200), .ok none] ∧
    reached.push 5 = .ok pushed ∧
    (∀ k ≤ between.length,
      reached.stack.depth < (pushed.performAll (between.take k)).1.stack.depth) ∧
    ∃ back, (pushed.performAll between).1.pop = .ok (5, back) ∧ back.stack.toList = [2] := by
  intro s other requests reached pushed between
  have hreplied : (s.addressList.performAll requests).2 =
      [.ok none, .ok (some 1), .error (.stackUnderflow 0x200), .ok none] := rfl
  obtain ⟨hlisted, hdeep, hdepth, hlist⟩ :
      other.addressList = s.addressList ∧
      (∀ k ≤ between.length,
        reached.stack.depth < (pushed.performAll (between.take k)).1.stack.depth) ∧
      (pushed.performAll between).1.stack.depth = reached.stack.depth + 1 ∧
      reached.stack.toList = [2] := by
    decide +kernel
  obtain ⟨hsame, _, _, _, _, _, _, _, hback, hother⟩ := call_stack_refines_list s requests
  obtain ⟨back, hpop, hlast⟩ := hback 5 pushed between rfl hdeep hdepth
  exact ⟨hlisted, hother other hlisted, hsame.trans hreplied, rfl, hdeep, back, hpop,
    hlast.trans hlist⟩

end ChipEight
