import ChipEight.HostRequest

/-!
# The journal

What a machine and its host report while they work. Events are values; their wording and level of
detail are functions of them. A journal has a threshold and keeps the events that are not more
detailed, in order; without a threshold it keeps nothing.
-/

namespace ChipEight

inductive Level where
  | error | info | debug | trace
  deriving DecidableEq

namespace Level

def rank : Level → Nat
  | .error => 0
  | .info => 1
  | .debug => 2
  | .trace => 3

def name : Level → String
  | .error => "ERROR"
  | .info => "INFO"
  | .debug => "DEBUG"
  | .trace => "TRACE"

end Level

inductive Event where
  | reset
  /-- A program of `size` bytes was placed in memory. -/
  | loaded (size : Nat)
  /-- A word was fetched; the registers are those before the step. -/
  | fetched (word : Word) (registers : Vector UInt8 16) (index pc : UInt16)
  /-- The instruction at `pc` failed. -/
  | halted (pc : UInt16) (fault : Fault)
  /-- A tick beeped after `frame` whole frames. -/
  | beep (frame : Nat)
  /-- A run stopped after `frames` whole frames. -/
  | stopped (frames : Nat) (fault : Fault)
  /-- A launch placed the program behind a path in memory. -/
  | opened (path : String)
  /-- A launch came to the end of its run. -/
  | finished (frames beeps : Nat)

namespace Event

def level : Event → Level
  | .reset | .loaded _ | .halted _ _ => .debug
  | .fetched _ _ _ _ => .trace
  | .beep _ | .opened _ | .finished _ _ => .info
  | .stopped _ _ => .error

def registersText (registers : Vector UInt8 16) : String :=
  "[" ++ ", ".intercalate (registers.toList.map fun b => HexadecimalText.padded 2 b.toNat) ++ "]"

def text : Event → String
  | .reset => "reset"
  | .loaded size =>
    "loaded " ++ toString size ++ " byte rom at " ++
      HexadecimalText.address Memory.programStart
  | .fetched word registers index pc =>
    word.text ++ " v" ++ registersText registers ++
      " i" ++ HexadecimalText.padded 4 index.toNat ++ " pc" ++ HexadecimalText.padded 4 pc.toNat
  | .halted pc fault =>
    "halted at " ++ HexadecimalText.padded 4 pc.toNat ++ ": " ++ fault.message
  | .beep frame => "beep at frame " ++ toString frame
  | .stopped frames fault =>
    "halted after " ++ toString frames ++ " frames: " ++ fault.message
  | .opened path => "loaded " ++ path
  | .finished frames beeps =>
    "ran " ++ toString frames ++ " frames, " ++ toString beeps ++ " beeps"

def line (e : Event) : String := e.level.name ++ " " ++ e.text

end Event

namespace Machine

/-- The events of a step with a given outcome. Nothing is reported when the fetch fails. -/
def stepEvents (m : Machine) (outcome : Except Fault Machine) : List Event :=
  match m.state.fetch with
  | .error _ => []
  | .ok (word, _) =>
    let fetched := .fetched word m.state.registers m.state.index m.state.pc
    match outcome with
    | .ok _ => [fetched]
    | .error fault => [fetched, .halted m.state.pc fault]

def loadEvents (m : Machine) (program : List UInt8) : List Event :=
  match m.load program with
  | .ok _ => [.loaded program.length]
  | .error _ => []

def events (m : Machine) : HostRequest → List Event
  | .reset => [.reset]
  | .load program => m.loadEvents program
  | .loadFrom source =>
    match Delivery.gather source with
    | .ok program => m.loadEvents program
    | .error _ => []
  | .press _ _ => []
  | .step => m.stepEvents m.step
  | .tick => []

end Machine

structure Journal where
  threshold : Option Level
  entries : Array Event

namespace Journal

def empty (threshold : Option Level) : Journal := ⟨threshold, #[]⟩

def keeps (j : Journal) (e : Event) : Bool :=
  match j.threshold with
  | some level => e.level.rank ≤ level.rank
  | none => false

/-- Adds those of some events that the journal keeps. -/
def record (j : Journal) (events : List Event) : Journal :=
  { j with entries := j.entries ++ events.filter j.keeps }

def lines (j : Journal) : List String := j.entries.toList.map Event.line

end Journal
end ChipEight
