import ChipEight.Proofs.PixelFlips
import ChipEight.Proofs.ReachableBounds

/-!
# Execution with checked arithmetic

A second account of a step, in which every sum, difference and product of bytes and of words checks
that it fits its type, and every use of a register, a slot of the call stack or a pixel checks that
there is one. A check that fails gives `none`; a fault of the program is an ordinary outcome. The
plain account wraps around in silence where a check would fail, so the two agree only where none
does. They agree on all reachable machines.

Sums that are meant to wrap, as those of the arithmetic instructions, have no check in either.
-/

namespace ChipEight.Checked

def addByte (a b : UInt8) : Option UInt8 := if a.toNat + b.toNat < 256 then some (a + b) else none

def subByte (a b : UInt8) : Option UInt8 := if b.toNat ≤ a.toNat then some (a - b) else none

def addWord (a b : UInt16) : Option UInt16 :=
  if a.toNat + b.toNat < 65536 then some (a + b) else none

def subWord (a b : UInt16) : Option UInt16 := if b.toNat ≤ a.toNat then some (a - b) else none

def mulWord (a b : UInt16) : Option UInt16 :=
  if a.toNat * b.toNat < 65536 then some (a * b) else none

section Cells

variable {α : Type} {n : Nat}

def setCell (cells : Vector α n) (k : Nat) (a : α) : Option (Vector α n) :=
  if h : k < n then some (cells.set k a h) else none

def firstCells (cells : Vector α n) (count : Nat) : Option (List α) :=
  if count ≤ n then some (cells.toList.take count) else none

def copyToFirst (cells : Vector α n) (count : Nat) (data : List α) : Option (Vector α n) :=
  if count ≤ n ∧ data.length = count then some (overlay cells 0 data) else none

end Cells

def stackOf (slots : Vector UInt16 16) (depth : UInt8) : Option CallStack :=
  if h : depth.toNat ≤ 16 then some ⟨slots, depth.toNat, h⟩ else none

def push (s : State) (address : UInt16) : Option (Except Fault State) :=
  if s.stack.depth = CallStack.capacity then
    some (.error (.stackOverflow s.pc s.stack.depth))
  else do
    let slots ← setCell s.stack.slots s.stack.depth address
    let depth ← addByte (UInt8.ofNat s.stack.depth) 1
    let stack ← stackOf slots depth
    return .ok { s with stack }

def pop (s : State) : Option (Except Fault (UInt16 × State)) :=
  if s.stack.depth = 0 then some (.error (.stackUnderflow s.pc))
  else do
    let depth ← subByte (UInt8.ofNat s.stack.depth) 1
    let address ← s.stack.slots[depth.toNat]?
    let stack ← stackOf s.stack.slots depth
    return .ok (address, { s with stack })

def fetch (s : State) : Option (Except Fault (Word × State)) :=
  match s.memory.read s.pc.toNat 2 with
  | .error fault => some (.error fault)
  | .ok bytes => do
    let high ← bytes[0]?
    let low ← bytes[1]?
    let pc ← addWord s.pc 2
    return .ok (Word.ofBytes high low, { s with pc })

def flipPixel (s : Screen) (k : Nat) : Option (Screen × Bool) :=
  if k < Screen.width * Screen.height then
    let p := Screen.Position.wrap k (k / Screen.width)
    some (s.flip p, s.lit p)
  else none

/-- Draws those of the given bits of a byte that are set. -/
def drawBits (s : Screen) (x y : Nat) (b : UInt8) : List Nat → Option (Screen × Bool)
  | [] => some (s, false)
  | bit :: rest =>
    if b.toBitVec.getMsbD bit then do
      let (flipped, on) ← flipPixel s ((x + bit) % Screen.width +
        Screen.width * (y % Screen.height))
      let (drawn, collided) ← drawBits flipped x y b rest
      return (drawn, on || collided)
    else drawBits s x y b rest

def draw (s : Screen) (x y : Nat) : List UInt8 → Option (Screen × Bool)
  | [] => some (s, false)
  | b :: rest => do
    let (first, collided) ← drawBits s x y b (List.range 8)
    let (drawn, others) ← draw first x (y + 1) rest
    return (drawn, collided || others)

def setRegister (s : State) (x : Nat) (b : UInt8) : Option State := do
  let registers ← setCell s.registers x b
  return { s with registers }

def skipIf (s : State) (condition : Bool) : Option State :=
  if condition then do
    let pc ← addWord s.pc 2
    return { s with pc }
  else some s

def holds (c : Condition) (keypad : Keypad) (s : State) : Option Bool :=
  match c with
  | .equalsByte x k => do return (← s.registers[x.val]?) == k
  | .differsByte x k => do return (← s.registers[x.val]?) != k
  | .equals x y => do return (← s.registers[x.val]?) == (← s.registers[y.val]?)
  | .differs x y => do return (← s.registers[x.val]?) != (← s.registers[y.val]?)
  | .pressed x => do return keypad.isPressed (← s.registers[x.val]?)
  | .released x => do return !keypad.isPressed (← s.registers[x.val]?)

def combine (s : State) (op : Arithmetic) (x y : Nat) : Option State := do
  let a ← s.registers[x]?
  let b ← s.registers[y]?
  let next ← setRegister s x (op.result a b).1
  match (op.result a b).2 with
  | none => return next
  | some flag => setRegister next 0xF (if flag then 1 else 0)

def awaitKey (s : State) (keypad : Keypad) (x : Nat) : Option State :=
  match keypad.firstPressed? with
  | some key => setRegister s x (UInt8.ofNat key.val)
  | none => do
    let pc ← subWord s.pc 2
    return { s with pc }

def drawSprite (s : State) (x y n : Nat) : Option (Except Fault State) :=
  match s.memory.read s.index.toNat n with
  | .error fault => some (.error fault)
  | .ok sprite => do
    let a ← s.registers[x]?
    let b ← s.registers[y]?
    let (screen, collided) ← draw s.screen a.toNat b.toNat sprite
    let next ← setRegister { s with screen } 0xF (if collided then 1 else 0)
    return .ok next

def storeThrough (s : State) (x : Nat) : Option (Except Fault State) := do
  let block ← firstCells s.registers (x + 1)
  match s.memory.write s.index.toNat block with
  | .error fault => return .error fault
  | .ok memory =>
    let index ← addWord s.index (UInt16.ofNat (x + 1))
    return .ok { s with memory, index }

def loadThrough (s : State) (x : Nat) : Option (Except Fault State) :=
  match s.memory.read s.index.toNat (x + 1) with
  | .error fault => some (.error fault)
  | .ok block => do
    let registers ← copyToFirst s.registers (x + 1) block
    let index ← addWord s.index (UInt16.ofNat (x + 1))
    return .ok { s with registers, index }

def execute (i : Instruction) (keypad : Keypad) (randomByte : UInt8) (s : State) :
    Option (Except Fault State) :=
  match i with
  | .idle => some (.ok s)
  | .clear => some (.ok { s with screen := .blank })
  | .ret => do return (← pop s).map fun (address, next) => { next with pc := address }
  | .jump a => some (.ok { s with pc := UInt16.ofNat a.val })
  | .call a => do return (← push s s.pc).map fun next => { next with pc := UInt16.ofNat a.val }
  | .skip c => do return .ok (← skipIf s (← holds c keypad s))
  | .load x k => do return .ok (← setRegister s x k)
  | .addByte x k => do return .ok (← setRegister s x ((← s.registers[x.val]?) + k))
  | .arithmetic op x y => do return .ok (← combine s op x y)
  | .setIndex a => some (.ok { s with index := UInt16.ofNat a.val })
  | .jumpFrom a => do
    let offset ← s.registers[0]?
    let pc ← addWord offset.toUInt16 (UInt16.ofNat a.val)
    return .ok { s with pc }
  | .random x k => do return .ok (← setRegister s x (randomByte &&& k))
  | .draw x y n => drawSprite s x y n
  | .readDelay x => do return .ok (← setRegister s x s.timers.delay)
  | .awaitKey x => do return .ok (← awaitKey s keypad x)
  | .setDelay x => do
    let delay ← s.registers[x.val]?
    return .ok { s with timers := { s.timers with delay } }
  | .setSound x => do
    let sound ← s.registers[x.val]?
    return .ok { s with timers := { s.timers with sound } }
  | .advanceIndex x => do
    let offset ← s.registers[x.val]?
    return .ok { s with
      index := UInt16.ofNat ((s.index.toNat + offset.toNat) % indexModulus) }
  | .pointAtGlyph x => do
    let digit ← s.registers[x.val]?
    let index ← mulWord digit.toUInt16 (UInt16.ofNat Memory.glyphHeight)
    return .ok { s with index }
  | .storeDigits x => do return s.store (decimalDigits (← s.registers[x.val]?))
  | .storeThrough x => storeThrough s x
  | .loadThrough x => loadThrough s x

def step (m : Machine) : Option (Except Fault Machine) := do
  match ← fetch m.state with
  | .error fault => return .error fault
  | .ok (word, fetched) =>
    match word.instruction with
    | .error fault => return .error fault
    | .ok i =>
      let outcome ← execute i m.keypad m.random.nextByte fetched
      return outcome.map fun state => { m with state, random := m.random.skip i.randomWords }

section Cells

variable {α : Type} {n k count : Nat} (cells : Vector α n)

private theorem setCell_eq (h : k < n) (a : α) : setCell cells k a = some (cells.set k a h) :=
  dif_pos h

private theorem firstCells_eq (h : count ≤ n) :
    firstCells cells count = some (cells.toList.take count) :=
  if_pos h

private theorem copyToFirst_eq (h : count ≤ n) {data : List α} (hlength : data.length = count) :
    copyToFirst cells count data = some (overlay cells 0 data) :=
  if_pos ⟨h, hlength⟩

end Cells

section Registers

variable (s : State) (x : Register)

private theorem getElem?_registers : s.registers[x.val]? = some (s.register x) :=
  Vector.getElem?_eq_getElem x.isLt

private theorem setRegister_eq (b : UInt8) : setRegister s x b = some (s.setRegister x b) := by
  rw [setRegister, setCell_eq _ x.isLt]
  rfl

private theorem setFlag_eq (flag : Bool) :
    setRegister s 0xF (if flag then 1 else 0) = some (s.setFlag flag) :=
  setRegister_eq s flagRegister _

private theorem combine_eq (op : Arithmetic) (y : Register) :
    combine s op x y = some (s.combine op x y) := by
  simp only [combine, getElem?_registers, setRegister_eq, setFlag_eq, State.combine,
    Option.bind_eq_bind, Option.bind_some, Option.pure_def]
  cases op <;> rfl

private theorem holds_eq (c : Condition) (keypad : Keypad) :
    holds c keypad s = some (c.holds keypad s) := by
  cases c <;>
    simp only [holds, getElem?_registers, Condition.holds, Option.bind_eq_bind,
      Option.bind_some, Option.pure_def]

end Registers

section Counter

variable {s : State}

private theorem skipIf_eq (h : s.pc.toNat ≤ 4096) (condition : Bool) :
    skipIf s condition = some (if condition then s.skipNext else s) := by
  have fits : addWord s.pc 2 = some (s.pc + 2) := by
    apply if_pos
    show s.pc.toNat + 2 < 65536
    omega
  cases condition with
  | false => rfl
  | true => simp [skipIf, fits, State.skipNext]

private theorem awaitKey_eq (h : 2 ≤ s.pc.toNat) (keypad : Keypad) (x : Register) :
    awaitKey s keypad x = some (s.awaitKey keypad x) := by
  have fits : subWord s.pc 2 = some (s.pc - 2) := if_pos h
  rw [awaitKey, State.awaitKey]
  cases keypad.firstPressed? with
  | some key => exact setRegister_eq s x _
  | none =>
    rw [fits]
    rfl

end Counter

section Stack

variable (s : State)

private theorem stackOf_eq (slots : Vector UInt16 16) {depth : UInt8} {n : Nat}
    (hdepth : depth.toNat = n)
    (h : n ≤ 16) : stackOf slots depth = some ⟨slots, n, h⟩ := by
  subst hdepth
  exact dif_pos h

private theorem toNat_one : (1 : UInt8).toNat = 1 := rfl

private theorem toNat_depth : (UInt8.ofNat s.stack.depth).toNat = s.stack.depth := by
  have := s.stack.depth_le
  exact UInt8.toNat_ofNat_of_lt' (by simp only [UInt8.size]; omega)

private theorem push_eq (a : UInt16) : push s a = some (s.push a) := by
  have hle := s.stack.depth_le
  have hdepth := toNat_depth s
  rw [push, State.push, CallStack.capacity]
  by_cases hfull : s.stack.depth = 16
  · rw [if_pos hfull, CallStack.push?_eq_none_iff.2 hfull]
  · have hlt : s.stack.depth < 16 := by omega
    have hsum : addByte (UInt8.ofNat s.stack.depth) 1 = some (UInt8.ofNat s.stack.depth + 1) := by
      apply if_pos
      rw [hdepth, toNat_one]
      omega
    have hnext : (UInt8.ofNat s.stack.depth + 1).toNat = s.stack.depth + 1 := by
      rw [UInt8.toNat_add, hdepth, toNat_one]
      omega
    rw [if_neg hfull, setCell_eq _ hlt, hsum, CallStack.push?, dif_pos hlt]
    simp only [Option.bind_eq_bind, Option.bind_some, Option.pure_def, stackOf_eq _ hnext hlt]

private theorem pop_eq : pop s = some s.pop := by
  have hle := s.stack.depth_le
  have hdepth := toNat_depth s
  rw [pop, State.pop]
  by_cases hempty : s.stack.depth = 0
  · rw [if_pos hempty, CallStack.pop?_eq_none_iff.2 hempty]
  · have hpos : 0 < s.stack.depth := by omega
    have hdifference :
        subByte (UInt8.ofNat s.stack.depth) 1 = some (UInt8.ofNat s.stack.depth - 1) := by
      apply if_pos
      rw [hdepth, toNat_one]
      omega
    have hnext : (UInt8.ofNat s.stack.depth - 1).toNat = s.stack.depth - 1 := by
      rw [UInt8.toNat_sub_of_le, hdepth, toNat_one]
      rw [UInt8.le_iff_toNat_le, hdepth, toNat_one]
      omega
    rw [if_neg hempty, hdifference, CallStack.pop?, dif_pos hpos]
    simp only [Option.bind_eq_bind, Option.bind_some, Option.pure_def, hnext,
      Vector.getElem?_eq_getElem (show s.stack.depth - 1 < 16 by omega),
      stackOf_eq _ hnext (show s.stack.depth - 1 ≤ 16 by omega)]

end Stack

section Blocks

variable (s : State)

private theorem addWord_index {index : UInt16} {count : Nat} (hzero : count ≠ 0)
    (inside : Memory.Inside index.toNat count) :
    addWord index (UInt16.ofNat count) = some (index + UInt16.ofNat count) := by
  have hfits : index.toNat + count ≤ 4096 := inside.resolve_left hzero
  apply if_pos
  rw [UInt16.toNat_ofNat_of_lt' (by simp only [UInt16.size]; omega)]
  omega

theorem fetch_eq : fetch s = some s.fetch := by
  have hinside : Memory.Inside s.pc.toNat 2 ↔ s.pc.toNat + 2 ≤ 4096 := by
    simp [Memory.Inside, Memory.size]
  rw [fetch, State.fetch_eq, Memory.read_eq]
  by_cases hfits : s.pc.toNat + 2 ≤ 4096
  · have hpc : addWord s.pc 2 = some (s.pc + 2) := addWord_index (by decide) (hinside.2 hfits)
    rw [if_pos (hinside.2 hfits), if_pos hfits]
    simp [Memory.window, List.range_succ, hpc, Memory.word, State.fetched]
  · rw [if_neg (hinside.not.2 hfits), if_neg hfits]

private theorem storeThrough_eq (x : Register) :
    storeThrough s x =
      some ((s.store (s.registersThrough x)).map (·.advanceIndexBy (x.val + 1))) := by
  have hlength := Instruction.length_registersThrough s x
  have hblock : firstCells s.registers (x.val + 1) = some (s.registersThrough x) :=
    firstCells_eq _ (by omega)
  rw [storeThrough, hblock, State.store_eq, hlength]
  simp only [Option.bind_eq_bind, Option.bind_some, Memory.write_eq, hlength]
  by_cases inside : Memory.Inside s.index.toNat (x.val + 1)
  · simp only [if_pos inside, addWord_index (Nat.succ_ne_zero _) inside]
    rfl
  · simp only [if_neg inside]
    rfl

theorem loadThrough_eq (x : Register) :
    loadThrough s x = some ((s.loadThrough x).map (·.advanceIndexBy (x.val + 1))) := by
  rw [loadThrough, State.loadThrough_eq, Memory.read_eq]
  by_cases inside : Memory.Inside s.index.toNat (x.val + 1)
  · have hlength : (s.memory.window s.index.toNat (x.val + 1)).length = x.val + 1 :=
      Memory.length_window
    have hcopy := copyToFirst_eq s.registers (show x.val + 1 ≤ 16 by omega) hlength
    simp only [if_pos inside, addWord_index (Nat.succ_ne_zero _) inside, hcopy]
    rfl
  · simp only [if_neg inside]
    rfl

end Blocks

section Drawing

variable (s : Screen)

private theorem flipPixel_eq (x y : Nat) :
    flipPixel s (x % Screen.width + Screen.width * (y % Screen.height)) =
      some (s.flip (.wrap x y), s.lit (.wrap x y)) := by
  have hlt : x % 64 + 64 * (y % 32) < 2048 := by omega
  have hcolumn : (x % 64 + 64 * (y % 32)) % 64 = x % 64 := by omega
  have hrow : (x % 64 + 64 * (y % 32)) / 64 % 32 = y % 32 := by omega
  have hposition : Screen.Position.wrap (x % 64 + 64 * (y % 32))
      ((x % 64 + 64 * (y % 32)) / 64) = .wrap x y :=
    Prod.ext (Fin.ext hcolumn) (Fin.ext hrow)
  refine (if_pos hlt).trans ?_
  exact congrArg (fun p => some (s.flip p, s.lit p)) hposition

private theorem drawBits_eq (x y : Nat) (b : UInt8) (bits : List Nat) :
    drawBits s x y b bits =
      some (s.flipAll ((bits.filter fun bit => b.toBitVec.getMsbD bit).map fun bit =>
        .wrap (x + bit) y)) := by
  induction bits generalizing s with
  | nil => rfl
  | cons bit rest ih =>
    rw [drawBits]
    by_cases hset : b.toBitVec.getMsbD bit = true
    · rw [if_pos hset, flipPixel_eq]
      simp only [Option.bind_eq_bind, Option.bind_some, ih, hset, List.filter_cons_of_pos,
        List.map_cons, Screen.flipAll, Option.pure_def]
    · rw [if_neg hset, ih]
      simp only [hset, Bool.false_eq_true, not_false_eq_true, List.filter_cons_of_neg]

private theorem draw_eq (x y : Nat) (sprite : List UInt8) :
    draw s x y sprite = some (s.draw x y sprite) := by
  induction sprite generalizing s y with
  | nil => rfl
  | cons b rest ih =>
    have hrow : drawBits s x y b (List.range 8) = some (s.drawRow x y b) := by
      rw [drawBits_eq, Screen.drawRow_eq_flipAll]
      rfl
    rw [draw, hrow, Screen.draw]
    simp only [Option.bind_eq_bind, Option.bind_some, ih, Option.pure_def]

theorem drawSprite_eq (s : State) (x y : Register) (n : Nat) :
    drawSprite s x y n = some (s.drawSprite x y n) := by
  rw [drawSprite, State.drawSprite]
  cases s.memory.read s.index.toNat n with
  | error fault => rfl
  | ok sprite =>
    simp only [getElem?_registers, draw_eq, Option.bind_eq_bind, Option.bind_some, setFlag_eq,
      Option.pure_def]

end Drawing

private theorem addWord_offset (offset : UInt8) (a : Address) :
    addWord offset.toUInt16 (UInt16.ofNat a.val) =
      some (UInt16.ofNat (offset.toNat + a.val)) := by
  have := offset.toNat_lt
  have haddress : (UInt16.ofNat a.val).toNat = a.val :=
    UInt16.toNat_ofNat_of_lt' (by simp only [UInt16.size]; omega)
  rw [addWord, UInt8.toNat_toUInt16, haddress, if_pos (by omega), UInt16.ofNat_add,
    UInt16.ofNat_uInt8ToNat]

private theorem mulWord_glyph (digit : UInt8) :
    mulWord digit.toUInt16 (UInt16.ofNat Memory.glyphHeight) =
      some (UInt16.ofNat (digit.toNat * Memory.glyphHeight)) := by
  have := digit.toNat_lt
  have hheight : (UInt16.ofNat Memory.glyphHeight).toNat = 5 := rfl
  rw [mulWord, UInt8.toNat_toUInt16, hheight, if_pos (by omega), UInt16.ofNat_mul,
    UInt16.ofNat_uInt8ToNat]

theorem execute_eq (i : Instruction) (keypad : Keypad) (randomByte : UInt8) {s : State}
    (hlow : 2 ≤ s.pc.toNat) (hhigh : s.pc.toNat ≤ 4096) :
    execute i keypad randomByte s = some (i.execute keypad randomByte s) := by
  cases i with
  | ret => rw [execute, pop_eq]; rfl
  | call a => rw [execute, push_eq]; rfl
  | skip c => rw [execute, holds_eq]; simp [skipIf_eq hhigh, Instruction.execute]
  | arithmetic op x y => rw [execute, combine_eq]; rfl
  | awaitKey x => rw [execute, awaitKey_eq hlow]; rfl
  | jumpFrom a =>
    rw [execute, show s.registers[0]? = some (s.register 0) from getElem?_registers s 0]
    simp [addWord_offset, Instruction.execute]
  | pointAtGlyph x =>
    rw [execute, getElem?_registers]
    simp [mulWord_glyph, Instruction.execute]
  | draw x y n => exact drawSprite_eq s x y n.val
  | storeThrough x => exact storeThrough_eq s x
  | loadThrough x => exact loadThrough_eq s x
  | _ =>
    simp only [execute, getElem?_registers, setRegister_eq, Option.bind_eq_bind, Option.bind_some,
      Option.pure_def, Instruction.execute]

/-- No check of a step fails. -/
theorem step_eq (m : Machine) : step m = some m.step := by
  rw [step, fetch_eq, Machine.step_eq, State.fetch_eq]
  by_cases hfits : m.state.pc.toNat + 2 ≤ 4096
  · have hpc := State.toNat_pc_fetched hfits
    simp only [if_pos hfits, Option.bind_eq_bind, Option.bind_some]
    cases (m.state.memory.word m.state.pc.toNat).instruction with
    | error fault => rfl
    | ok i =>
      have hexecute := execute_eq i m.keypad m.random.nextByte
        (show 2 ≤ m.state.fetched.pc.toNat by omega) (by omega)
      simp only [hexecute, Option.bind_some, Option.pure_def]
  · simp only [if_neg hfits]
    rfl

end ChipEight.Checked

namespace ChipEight

/-- Whatever a host asks of a new machine and whatever programs it loads, the bounds hold and the
next step succeeds or fails without a number that leaves its type or an index that leaves its
array. -/
theorem reachable_in_range (random : RandomSource) (requests : List HostRequest) :
    let m := ((Machine.initial random).performAll requests).1
    m.state.stack.depth ≤ 16 ∧ m.state.index.toNat ≤ 0x7FFF ∧ m.state.pc.toNat ≤ 0x10FE ∧
      (∀ slot ∈ m.state.stack.slots, slot.toNat ≤ 0x1000) ∧
      Checked.step m = some m.step := by
  intro m
  have bounded : m.state.Bounded := Machine.Reachable.bounded ⟨random, requests, rfl⟩
  refine ⟨m.state.stack.depth_le, bounded.index_le, bounded.pc_le, ?_, Checked.step_eq m⟩
  intro slot hslot
  obtain ⟨k, hk, rfl⟩ := Vector.mem_iff_getElem.1 hslot
  exact bounded.slots_le k hk

end ChipEight
