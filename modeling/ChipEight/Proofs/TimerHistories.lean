import Mathlib.Data.List.Induction
import ChipEight.Proofs.HistoryMoments

/-!
# Timers over whole histories

What a timer shows is decided by the last write to it and the ticks since: it shows the value
written less one for every tick, but not below zero. A beep belongs to the write that the sound
timer counts down from. It comes with the tick whose number is the value written, unless another
write comes first, so a write beeps at most once and only if it is not zero.
-/

namespace ChipEight

inductive Timer where
  | delay | sound

def Timers.value (t : Timers) : Timer → UInt8
  | .delay => t.delay
  | .sound => t.sound

/-- The register that an instruction sets a timer from. -/
def Instruction.timerSource? : Instruction → Timer → Option Register
  | .setDelay x, .delay => some x
  | .setSound x, .sound => some x
  | _, _ => none

namespace Moment

/-- The value that a request writes to a timer: a register, where a step carries out an
instruction that sets the timer from it. -/
def written? (timer : Timer) (p : Moment) : Option UInt8 :=
  (p.executed?.bind (·.timerSource? timer)).map p.machine.state.register

/-- The value that the last write to a timer wrote, and zero if there was none. -/
def lastWritten (timer : Timer) (past : List Moment) : Nat :=
  (past.filterMap (written? timer)).getLast?.elim 0 UInt8.toNat

/-- The number of ticks since the last write to a timer, or since the beginning. -/
def ticksSince (timer : Timer) (past : List Moment) : Nat :=
  (past.reverse.takeWhile fun p => (p.written? timer).isNone).countP (·.request.isTick)

variable {timer : Timer} {past : List Moment} {p : Moment}

private theorem lastWritten_concat :
    lastWritten timer (past ++ [p]) =
      match p.written? timer with
      | some v => v.toNat
      | none => lastWritten timer past := by
  cases hwritten : p.written? timer <;> simp [lastWritten, hwritten]

private theorem ticksSince_concat :
    ticksSince timer (past ++ [p]) =
      match p.written? timer with
      | some _ => 0
      | none => ticksSince timer past + if p.request.isTick then 1 else 0 := by
  cases hwritten : p.written? timer <;> simp [ticksSince, hwritten, List.countP_cons]

end Moment

/-- A history in which nothing stops or writes a timer. -/
structure Machine.LeavesAlone (m : Machine) (timer : Timer) (requests : List HostRequest) :
    Prop where
  no_reset : .reset ∉ requests
  no_write : ∀ p ∈ m.moments requests, p.written? timer = none

theorem Timers.toNat_value_tick (t : Timers) (timer : Timer) :
    (t.tick.value timer).toNat = (t.value timer).toNat - 1 := by
  have toNat_countDown (b : UInt8) : (countDown b).toNat = b.toNat - 1 := by
    rw [countDown]
    split
    · next hzero => rw [hzero]; rfl
    · next hpositive =>
      have hle : (1 : UInt8) ≤ b := by
        rw [UInt8.le_iff_toNat_le]
        exact Nat.pos_of_ne_zero fun h => hpositive (UInt8.toNat_inj.1 h)
      exact UInt8.toNat_sub_of_le b 1 hle
  cases timer <;> exact toNat_countDown _

theorem Instruction.value_timersBehind (i : Instruction) (s : State) (timer : Timer) :
    (i.timersBehind s).value timer =
      ((i.timerSource? timer).map s.register).getD (s.timers.value timer) := by
  cases i with
  | setDelay x => cases timer <;> rfl
  | setSound x => cases timer <;> rfl
  | _ => rfl

namespace Machine

variable {m : Machine}

private theorem isTick_of_written {r : HostRequest} {timer : Timer} {v : UInt8}
    (h : (Moment.mk m r).written? timer = some v) : r.isTick = false := by
  obtain ⟨x, hx, _⟩ := Option.map_eq_some_iff.1 h
  obtain ⟨i, hi, _⟩ := Option.bind_eq_some_iff.1 hx
  obtain ⟨rfl, _⟩ := executed?_eq_some_iff.1 hi
  rfl

theorem toNat_value_perform {r : HostRequest} (hreset : r ≠ .reset) (timer : Timer) :
    ((m.perform r).1.state.timers.value timer).toNat =
      match (Moment.mk m r).written? timer with
      | some v => v.toNat
      | none => (m.state.timers.value timer).toNat - if r.isTick then 1 else 0 := by
  cases hexecuted : (Moment.mk m r).executed? with
  | some i =>
    obtain ⟨rfl, _⟩ := executed?_eq_some_iff.1 hexecuted
    rw [perform_of_executed hexecuted, carryOut, Instruction.effect_timers,
      Instruction.value_timersBehind, Moment.written?, hexecuted, Option.bind_some]
    cases i.timerSource? timer <;> rfl
  | none =>
    obtain ⟨memory, keypad, hnext⟩ := perform_of_not_executed hreset hexecuted
    rw [hnext, Moment.written?, hexecuted]
    cases r.isTick
    · rfl
    · exact m.state.timers.toNat_value_tick timer

theorem toNat_value_of_written {r : HostRequest} {timer : Timer} {v : UInt8}
    (h : (Moment.mk m r).written? timer = some v) :
    ((m.perform r).1.state.timers.value timer).toNat = v.toNat := by
  have hreset : r ≠ .reset := by
    rintro rfl
    cases h
  rw [toNat_value_perform hreset, h]

theorem beeps_iff : m.beeps = true ↔ (m.state.timers.value .sound).toNat = 1 := by
  rw [beeps, Timers.beeps, beq_iff_eq, ← UInt8.toNat_inj]
  rfl

/-- A timer that starts at zero shows what the last write leaves after the ticks since. -/
theorem toNat_value_performAll {timer : Timer} (hm : (m.state.timers.value timer).toNat = 0)
    {requests : List HostRequest} (hreset : .reset ∉ requests) :
    ((m.performAll requests).1.state.timers.value timer).toNat =
      Moment.lastWritten timer (m.moments requests) -
        Moment.ticksSince timer (m.moments requests) := by
  induction requests using List.reverseRecOn with
  | nil => exact hm
  | append_singleton requests r ih =>
    rw [List.mem_append, List.mem_singleton, not_or] at hreset
    rw [performAll_concat, toNat_value_perform (Ne.symm hreset.2), ih hreset.1, moments_concat,
      Moment.lastWritten_concat, Moment.ticksSince_concat]
    cases (Moment.mk (m.performAll requests).1 r).written? timer with
    | some v => rfl
    | none => exact Nat.sub_sub _ _ _

theorem beepCount_of_leavesAlone {requests : List HostRequest}
    (h : m.LeavesAlone .sound requests) {v : Nat}
    (hv : (m.state.timers.value .sound).toNat = v) :
    m.beepCount requests =
      if 1 ≤ v ∧ v ≤ requests.countP HostRequest.isTick then 1 else 0 := by
  induction requests generalizing m v with
  | nil =>
    rw [if_neg (by simp only [List.countP_nil]; omega)]
    rfl
  | cons r rest ih =>
    obtain ⟨hreset, hwrite⟩ := h
    rw [List.mem_cons, not_or] at hreset
    have hnext := toNat_value_perform (m := m) (Ne.symm hreset.1) .sound
    rw [hwrite ⟨m, r⟩ List.mem_cons_self, hv] at hnext
    rw [beepCount_cons, beeped_perform, List.countP_cons,
      ih ⟨hreset.2, fun p hp => hwrite p (List.mem_cons_of_mem _ hp)⟩ hnext]
    have hbeeps := m.beeps_iff
    rw [hv] at hbeeps
    cases r.isTick with
    | false => simp
    | true =>
      by_cases hone : v = 1
      · subst hone
        simp [hbeeps.2 rfl]
      · have hsilent : m.beeps = false := by
          rw [← Bool.not_eq_true, hbeeps]
          exact hone
        simp only [hsilent, Bool.and_false, Bool.false_eq_true, if_false, if_true, Nat.zero_add]
        exact if_congr (by omega) rfl rfl

theorem beepCount_of_overwritten {v w : UInt8} {between after : List HostRequest}
    (hv : (m.state.timers.value .sound).toNat = v.toNat)
    (alone : m.LeavesAlone .sound between)
    (early : between.countP HostRequest.isTick < v.toNat)
    (hwrites : (Moment.mk (m.performAll between).1 .step).written? .sound = some w)
    (quiet : ((m.performAll between).1.perform .step).1.LeavesAlone .sound after) :
    m.beepCount (between ++ .step :: after) =
      if 1 ≤ w.toNat ∧ w.toNat ≤ after.countP HostRequest.isTick then 1 else 0 := by
  have silent : m.beepCount between = 0 := by
    rw [beepCount_of_leavesAlone alone hv, if_neg (by omega)]
  have step_silent : ((m.performAll between).1.perform .step).2.beeped = false := beeped_perform _ _
  rw [beepCount_append, beepCount_cons, silent, step_silent,
    beepCount_of_leavesAlone quiet (toNat_value_of_written hwrites), if_neg Bool.false_ne_true,
    Nat.zero_add, Nat.zero_add]

/-- One where the sound timer is running and zero where it is not. -/
def beepsDue (m : Machine) : Nat := min 1 (m.state.timers.value .sound).toNat

theorem beepsDue_perform {r : HostRequest} (hreset : r ≠ .reset) :
    (if r.isTick && m.beeps then 1 else 0) + (m.perform r).1.beepsDue ≤
      m.beepsDue + if ((Moment.mk m r).written? .sound).any (0 < ·) then 1 else 0 := by
  have hnext := toNat_value_perform (m := m) hreset .sound
  have hbeeps := m.beeps_iff
  rw [beepsDue, beepsDue]
  cases hwritten : (Moment.mk m r).written? .sound with
  | some v =>
    rw [hwritten] at hnext
    have hpositive : (0 < v) ↔ 0 < v.toNat := UInt8.lt_iff_toNat_lt
    simp only [hnext, isTick_of_written hwritten, Bool.false_and, Bool.false_eq_true, if_false,
      Option.any_some, decide_eq_true_eq, hpositive]
    split <;> omega
  | none =>
    rw [hwritten] at hnext
    rw [hnext, Option.any_none, if_neg Bool.false_ne_true, Nat.add_zero]
    cases r.isTick with
    | false => exact Nat.le_of_eq (Nat.zero_add _)
    | true =>
      by_cases hbeep : m.beeps = true
      · simp [hbeep, hbeeps.1 hbeep]
      · simp only [hbeep, Bool.and_false, Bool.false_eq_true, if_false, if_true]
        omega

/-- Every beep has a write of its own that is not zero, but for one that is due beforehand. -/
theorem beepCount_le {requests : List HostRequest} (hreset : .reset ∉ requests) :
    m.beepCount requests ≤
      m.beepsDue + (m.moments requests).countP fun p => (p.written? .sound).any (0 < ·) := by
  induction requests generalizing m with
  | nil => exact Nat.zero_le _
  | cons r rest ih =>
    rw [List.mem_cons, not_or] at hreset
    have first := beepsDue_perform (m := m) (Ne.symm hreset.1)
    have others := ih (m := (m.perform r).1) hreset.2
    rw [beepCount_cons, beeped_perform, moments, List.countP_cons]
    omega

end Machine

/-- Timers and beeps of a machine that is new or has just been reset. Whatever history without a
reset lies behind it: each timer shows what the last write to it wrote, less the ticks since; a step
that reads the delay timer gets just that; and a tick beeps exactly when its number since the last
write to the sound timer is the value written. So a write beeps once if it is left alone long
enough, a write over a running sound takes the beep of the earlier one away, and there are at most
as many beeps as writes that are not zero. -/
theorem timers_by_last_write {m : Machine}
    (hm : (∃ random, m = .initial random) ∨ ∃ earlier : Machine, m = earlier.reset)
    {requests : List HostRequest} (hreset : .reset ∉ requests) :
    let past := m.moments requests
    let now := (m.performAll requests).1
    let shown (timer : Timer) := Moment.lastWritten timer past - Moment.ticksSince timer past
    let behind := (now.perform .step).1
    (∀ timer, (now.state.timers.value timer).toNat = shown timer) ∧
    (∀ x next, now.state.instruction? = some (.readDelay x) → now.step = .ok next →
      (next.state.register x).toNat = shown .delay) ∧
    ((now.perform .tick).2.beeped = true ↔
      1 ≤ Moment.lastWritten .sound past ∧
        Moment.ticksSince .sound past + 1 = Moment.lastWritten .sound past) ∧
    (∀ v after, (Moment.mk now .step).written? .sound = some v → behind.LeavesAlone .sound after →
      behind.beepCount after =
        if 1 ≤ v.toNat ∧ v.toNat ≤ after.countP HostRequest.isTick then 1 else 0) ∧
    (∀ v w between after, (Moment.mk now .step).written? .sound = some v →
      behind.LeavesAlone .sound between → between.countP HostRequest.isTick < v.toNat →
      let later := (behind.performAll between).1
      (Moment.mk later .step).written? .sound = some w →
      (later.perform .step).1.LeavesAlone .sound after →
      behind.beepCount (between ++ .step :: after) =
        if 1 ≤ w.toNat ∧ w.toNat ≤ after.countP HostRequest.isTick then 1 else 0) ∧
    m.beepCount requests ≤ past.countP fun p => (p.written? .sound).any (0 < ·) := by
  intro past now shown behind
  have hstopped : m.state.timers = .stopped := by
    rcases hm with ⟨random, rfl⟩ | ⟨earlier, rfl⟩ <;> rfl
  have hzero (timer : Timer) : (m.state.timers.value timer).toNat = 0 := by
    rw [hstopped]
    cases timer <;> rfl
  have hshown (timer : Timer) : (now.state.timers.value timer).toNat = shown timer :=
    Machine.toNat_value_performAll (hzero timer) hreset
  refine ⟨hshown, ?_, ?_, ?_, ?_, ?_⟩
  · intro x next hread hstep
    rw [← hshown, Machine.eq_carryOut hstep hread]
    exact congrArg UInt8.toNat (State.register_setRegister_self _ _ _)
  · have hbeeps := now.beeps_iff
    rw [hshown] at hbeeps
    rw [Machine.beeped_perform, HostRequest.isTick, Bool.true_and, hbeeps]
    dsimp only [shown]
    omega
  · intro v after hwrites alone
    exact Machine.beepCount_of_leavesAlone alone (Machine.toNat_value_of_written hwrites)
  · intro v w between after hwrites alone early later hoverwrites quiet
    exact Machine.beepCount_of_overwritten (Machine.toNat_value_of_written hwrites) alone early
      hoverwrites quiet
  · have hdue : m.beepsDue = 0 := by
      rw [Machine.beepsDue, hzero]
      rfl
    have hle := Machine.beepCount_le (m := m) hreset
    rwa [hdue, Nat.zero_add] at hle

/-- A program sets the sound timer and the delay timer to three and, one tick later, the sound timer
to two. The beep comes with the second tick after that and no other; the delay timer then shows
one. -/
theorem timers_by_last_write_overwritten :
    let m := (Machine.initial (.ofList [])).reset
    let load := HostRequest.load
      [0x60, 0x03, 0xF0, 0x18, 0xF0, 0x15, 0x60, 0x02, 0xF0, 0x18, 0xF1, 0x07]
    let requests := [load, .step, .step, .step, .tick, .step, .step, .tick]
    let now := (m.performAll requests).1
    let behind := ((m.performAll [load, .step]).1.perform .step).1
    .reset ∉ requests ∧
    (∃ next, now.step = .ok next ∧ (next.state.register 1).toNat = 1) ∧
    (now.perform .tick).2.beeped = true ∧
    behind.LeavesAlone .sound [.step, .tick, .step] ∧
    behind.beepCount [.step, .tick, .step, .step, .press 16 true, .tick, .tick] = 1 := by
  intro m load requests now behind
  let later := (behind.performAll [.step, .tick, .step]).1
  obtain ⟨hexecuted, hdelay, hsound, hsoundTicks⟩ :
      (Moment.mk now .step).executed? = some (.readDelay 1) ∧
      Moment.lastWritten .delay (m.moments requests) -
        Moment.ticksSince .delay (m.moments requests) = 1 ∧
      Moment.lastWritten .sound (m.moments requests) = 2 ∧
      Moment.ticksSince .sound (m.moments requests) = 1 := by
    decide +kernel
  obtain ⟨hwrites, hbetween, hoverwrites, hafter⟩ :
      (Moment.mk (m.performAll [load, .step]).1 .step).written? .sound = some 3 ∧
      (∀ p ∈ behind.moments [.step, .tick, .step], p.written? .sound = none) ∧
      (Moment.mk later .step).written? .sound = some 2 ∧
      (∀ p ∈ (later.perform .step).1.moments [.press 16 true, .tick, .tick],
        p.written? .sound = none) := by
    decide +kernel
  have hreset : .reset ∉ requests := by simp [requests, load]
  have hstart : .reset ∉ [load, .step] := by simp [load]
  have alone : behind.LeavesAlone .sound [.step, .tick, .step] := ⟨by simp, hbetween⟩
  have quiet : (later.perform .step).1.LeavesAlone .sound [.press 16 true, .tick, .tick] :=
    ⟨by simp, hafter⟩
  have fresh : (∃ random, m = .initial random) ∨ ∃ earlier : Machine, m = earlier.reset :=
    .inr ⟨Machine.initial (.ofList []), rfl⟩
  obtain ⟨_, read, beeps, _⟩ := timers_by_last_write fresh hreset
  obtain ⟨_, _, _, _, overwritten, _⟩ := timers_by_last_write fresh hstart
  obtain ⟨_, _, hread⟩ := Machine.executed?_eq_some_iff.1 hexecuted
  have hnext := Machine.step_of_executed hexecuted
  refine ⟨hreset, ⟨_, hnext, (read 1 _ hread hnext).trans hdelay⟩, ?_, alone, ?_⟩
  · rw [beeps, hsound, hsoundTicks]
    decide
  · have early :
        [HostRequest.step, .tick, .step].countP HostRequest.isTick < (3 : UInt8).toNat := by
      decide
    have hcount := overwritten 3 2 _ _ hwrites alone early hoverwrites quiet
    exact hcount.trans (by decide)

end ChipEight
