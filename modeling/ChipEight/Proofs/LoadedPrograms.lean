import ChipEight.Journal
import ChipEight.Proofs.UnreadMemory

/-!
# Loaded programs

A program reaches memory whole or not at all, however its source hands it out. A source goes on
behind some bytes and behind an interruption, until it is at its end or fails. Only the bytes before
its end count, so a source that ends is as good as its bytes, and one that fails changes nothing.
-/

namespace ChipEight

namespace Delivery

def data : Delivery → List UInt8
  | .bytes data => data
  | .interrupted => []
  | .failed _ => []

/-- Whether a source goes on behind a delivery: behind some bytes and behind an interruption. -/
def GoesOn : Delivery → Prop
  | .bytes data => data ≠ []
  | .interrupted => True
  | .failed _ => False

/-- Whether a source is at its end: it hands out no bytes or has nothing more to answer. -/
def AtEnd : List Delivery → Prop
  | [] => True
  | .bytes data :: _ => data = []
  | _ => False

variable {before rest : List Delivery}

private theorem gather_cons {d : Delivery} (h : d.GoesOn) (rest : List Delivery) :
    gather (d :: rest) = (gather rest).map (d.data ++ ·) := by
  cases d with
  | bytes data =>
    cases data with
    | nil => exact absurd rfl h
    | cons b others => rfl
  | interrupted => cases hrest : gather rest <;> simp [gather, data, hrest, Except.map]
  | failed reason => exact h.elim

theorem gather_append (h : ∀ d ∈ before, d.GoesOn) (rest : List Delivery) :
    gather (before ++ rest) = (gather rest).map (before.flatMap data ++ ·) := by
  induction before with
  | nil => cases hrest : gather rest <;> simp [hrest, Except.map]
  | cons d others ih =>
    have hothers := ih fun d' hd' => h d' (List.mem_cons_of_mem _ hd')
    rw [List.cons_append, gather_cons (h d List.mem_cons_self), hothers]
    cases gather rest <;> simp [Except.map]

theorem gather_of_atEnd (h : AtEnd rest) : gather rest = .ok [] := by
  cases rest with
  | nil => rfl
  | cons d later =>
    cases d with
    | bytes data =>
      cases h
      rfl
    | interrupted => exact h.elim
    | failed reason => exact h.elim

theorem exists_goesOn_append (source : List Delivery) :
    ∃ before rest, source = before ++ rest ∧ (∀ d ∈ before, d.GoesOn) ∧
      (AtEnd rest ∨ ∃ reason later, rest = .failed reason :: later) := by
  induction source with
  | nil => exact ⟨[], [], rfl, by simp, .inl trivial⟩
  | cons d later ih =>
    obtain ⟨before, rest, rfl, hbefore, hrest⟩ := ih
    have longer (h : d.GoesOn) : ∀ d' ∈ d :: before, d'.GoesOn :=
      List.forall_mem_cons.2 ⟨h, hbefore⟩
    cases d with
    | bytes data =>
      by_cases hdata : data = []
      · exact ⟨[], _, rfl, by simp, .inl hdata⟩
      · exact ⟨_, rest, rfl, longer hdata, hrest⟩
    | interrupted => exact ⟨_, rest, rfl, longer trivial, hrest⟩
    | failed reason => exact ⟨[], _, rfl, by simp, .inr ⟨reason, _, rfl⟩⟩

end Delivery

namespace Machine

variable {before : List Delivery}

/-- A source that ends is as good as the bytes that it hands out. -/
theorem loadFrom_of_atEnd (m : Machine) {rest : List Delivery} (h : ∀ d ∈ before, d.GoesOn)
    (hend : Delivery.AtEnd rest) :
    m.loadFrom (before ++ rest) = m.load (before.flatMap Delivery.data) ∧
      m.events (.loadFrom (before ++ rest)) = m.events (.load (before.flatMap Delivery.data)) := by
  have hgather : Delivery.gather (before ++ rest) = .ok (before.flatMap Delivery.data) := by
    rw [Delivery.gather_append h, Delivery.gather_of_atEnd hend, Except.map, List.append_nil]
  simp only [loadFrom, events, hgather, and_self]

theorem loadFrom_of_failed (m : Machine) (h : ∀ d ∈ before, d.GoesOn) (reason : String)
    (rest : List Delivery) :
    m.loadFrom (before ++ .failed reason :: rest) = .error (.unreadableRom reason) := by
  rw [loadFrom, Delivery.gather_append h]
  rfl

theorem load_ne_outOfBounds (m : Machine) (program : List UInt8) (address : Nat) :
    m.load program ≠ .error (.outOfBounds address) := by
  rw [load_eq]
  split <;> simp

theorem loadFrom_ne_outOfBounds (m : Machine) (source : List Delivery) (address : Nat) :
    m.loadFrom source ≠ .error (.outOfBounds address) := by
  obtain ⟨before, rest, rfl, hbefore, hend | ⟨reason, later, rfl⟩⟩ :=
    Delivery.exists_goesOn_append source
  · rw [(m.loadFrom_of_atEnd hbefore hend).1]
    exact m.load_ne_outOfBounds _ address
  · rw [m.loadFrom_of_failed hbefore]
    simp

end Machine

/-- Loading is all or nothing. A program of up to 3584 bytes is found in memory from address `0x200`
on and nothing else changes; a longer one is refused with its size and changes nothing. A source
that ends is loaded like the bytes that it handed out, with the same answer and the same report,
however they were divided and whatever interrupted them; one that fails is refused with its own
reason and changes nothing, even if it has handed out more than memory holds. No load fails for
leaving memory. -/
theorem loading_whole_or_nothing (m : Machine) :
    (∀ program : List UInt8,
      (program.length ≤ 3584 → ∃ memory : Memory,
        m.perform (.load program) = ({ m with state := { m.state with memory } }, .done) ∧
        memory.window 0x200 program.length = program ∧
        ∀ a, ¬ Memory.Covers 0x200 program.length a →
          memory.byteAt a = m.state.memory.byteAt a) ∧
      (3584 < program.length →
        m.perform (.load program) = (m, ⟨some (.romTooLarge program.length 3584), false⟩))) ∧
    (∀ before : List Delivery, (∀ d ∈ before, d.GoesOn) →
      (∀ rest, Delivery.AtEnd rest →
        m.perform (.loadFrom (before ++ rest)) =
          m.perform (.load (before.flatMap Delivery.data)) ∧
        m.events (.loadFrom (before ++ rest)) =
          m.events (.load (before.flatMap Delivery.data))) ∧
      (∀ reason rest,
        m.perform (.loadFrom (before ++ .failed reason :: rest)) =
          (m, ⟨some (.unreadableRom reason), false⟩))) ∧
    (∀ program source address,
      m.load program ≠ .error (.outOfBounds address) ∧
      m.loadFrom source ≠ .error (.outOfBounds address)) := by
  refine ⟨fun program => ⟨fun hfits => ?_, fun hlong => ?_⟩,
    fun before hbefore => ⟨fun rest hend => ?_, fun reason rest => ?_⟩,
    fun program source address =>
      ⟨m.load_ne_outOfBounds program address, m.loadFrom_ne_outOfBounds source address⟩⟩
  · refine ⟨(m.withProgram program).state.memory, ?_, ?_, ?_⟩
    · rw [m.perform_load, if_pos hfits]
      rfl
    · have hend : 0x200 + program.length ≤ 4096 := by omega
      exact m.state.memory.window_overlay hend
    · exact fun a ha => m.state.memory.byteAt_overlay_of_not_covers ha
  · rw [m.perform_load, if_neg (Nat.not_le.2 hlong)]
  · obtain ⟨hload, hevents⟩ := m.loadFrom_of_atEnd hbefore hend
    exact ⟨congrArg m.settle hload, hevents⟩
  · rw [Machine.perform, m.loadFrom_of_failed hbefore]
    rfl

/-- A program that comes in two chunks with interruptions before, between and behind them; a source
that fails after it has handed out more than memory holds; and a program that is one byte too
long. -/
theorem loading_whole_or_nothing_interrupted :
    let m := Machine.initial (.ofList [])
    let before : List Delivery :=
      [.interrupted, .bytes [0x60, 0x05], .interrupted, .interrupted, .bytes [0x61], .interrupted]
    let rest : List Delivery := [.bytes [], .failed "behind the end"]
    let broken : List Delivery := [.bytes (List.replicate 4097 0), .interrupted]
    (∀ d ∈ before, d.GoesOn) ∧ Delivery.AtEnd rest ∧
    (∃ memory : Memory,
      m.perform (.loadFrom (before ++ rest)) =
        ({ m with state := { m.state with memory } }, .done) ∧
      memory.window 0x200 3 = [0x60, 0x05, 0x61] ∧
      memory.byteAt 0x203 = m.state.memory.byteAt 0x203) ∧
    (∀ d ∈ broken, d.GoesOn) ∧
    m.perform (.loadFrom (broken ++ [.failed "broken"])) =
      (m, ⟨some (.unreadableRom "broken"), false⟩) ∧
    m.perform (.load (List.replicate 3585 0)) =
      (m, ⟨some (.romTooLarge 3585 3584), false⟩) := by
  intro m before rest broken
  obtain ⟨programs, sources, _⟩ := loading_whole_or_nothing m
  have hbefore : ∀ d ∈ before, d.GoesOn := by simp [before, Delivery.GoesOn]
  have hend : Delivery.AtEnd rest := rfl
  have hzeros : List.replicate 4097 (0 : UInt8) ≠ [] := by
    rw [Ne, List.replicate_eq_nil_iff]
    decide
  have hbroken : ∀ d ∈ broken, d.GoesOn :=
    List.forall_mem_cons.2 ⟨hzeros, List.forall_mem_cons.2 ⟨trivial, by simp⟩⟩
  obtain ⟨memory, hload, hprogram, hothers⟩ := (programs [0x60, 0x05, 0x61]).1 (by decide)
  refine ⟨hbefore, hend, ⟨memory, ?_, hprogram, hothers 0x203 (by decide)⟩, hbroken,
    (sources broken hbroken).2 "broken" [], ?_⟩
  · exact ((sources before hbefore).1 rest hend).1.trans hload
  · have hrefused := (programs (List.replicate 3585 0)).2
    rw [List.length_replicate] at hrefused
    exact hrefused (by decide)

end ChipEight
