import ChipEight.Display
import ChipEight.Journal

/-!
# Runs of a host

A host presses the held keys and then works frame by frame: a fixed number of steps, one tick and,
where every frame is drawn, a drawing. The first fault ends the run in the middle of its frame; the
last screen is then drawn unless nothing is drawn at all, and a failure to draw it is reported in
place of the fault. `Session` is everything that a run changes, so a run that fails gives it back
too.
-/

namespace ChipEight

inductive Drawing where
  | atEnd | everyFrame | never
  deriving DecidableEq

/-- How a host drives a machine. Pacing and the bell concern the outside world only. -/
structure Settings where
  stepsPerTick : Nat
  frames : Nat
  heldKeys : List UInt8
  drawing : Drawing
  realtime : Bool
  bell : Bool

inductive RunFailure where
  | fault (cause : Fault)
  | drawing (cause : SinkFailure)
  deriving DecidableEq

namespace RunFailure

def message : RunFailure → String
  | .fault cause => cause.message
  | .drawing cause => "unable to draw frame: " ++ cause.message

end RunFailure

/-- A run under way: the machine, the display, the journal, and the numbers of whole frames and
of beeps so far. -/
structure Session where
  machine : Machine
  display : Display
  journal : Journal
  frames : Nat
  beeps : Nat

namespace Session

def start (machine : Machine) (display : Display) (journal : Journal) : Session :=
  ⟨machine, display, journal, 0, 0⟩

def note (s : Session) (events : List Event) : Session :=
  { s with journal := s.journal.record events }

def pressAll (s : Session) : List UInt8 → Session × Option Fault
  | [] => (s, none)
  | key :: rest =>
    match s.machine.press key true with
    | .ok machine => pressAll { s with machine } rest
    | .error fault => (s, some fault)

def steps (s : Session) : Nat → Session × Option Fault
  | 0 => (s, none)
  | n + 1 =>
    let outcome := s.machine.step
    let noted := s.note (s.machine.stepEvents outcome)
    match outcome with
    | .ok machine => steps { noted with machine } n
    | .error fault => (noted, some fault)

def tick (s : Session) : Session :=
  let next := { s with machine := s.machine.tick, frames := s.frames + 1 }
  if s.machine.beeps then { next with beeps := s.beeps + 1 }.note [.beep s.frames] else next

def draw (s : Session) : Session × Option RunFailure :=
  let (display, failure) := s.display.render s.machine.state.screen
  ({ s with display }, failure.map .drawing)

def stop (s : Session) (drawing : Drawing) (fault : Fault) : Session × Option RunFailure :=
  let noted := s.note [.stopped s.frames fault]
  if drawing = .never then (noted, some (.fault fault))
  else
    match noted.draw with
    | (last, none) => (last, some (.fault fault))
    | (last, some failure) => (last, some failure)

def frame (s : Session) (settings : Settings) : Session × Option RunFailure :=
  match s.steps settings.stepsPerTick with
  | (halted, some fault) => halted.stop settings.drawing fault
  | (next, none) => if settings.drawing = .everyFrame then next.tick.draw else (next.tick, none)

def runFrames (s : Session) (settings : Settings) : Nat → Session × Option RunFailure
  | 0 => (s, none)
  | n + 1 =>
    match s.frame settings with
    | (next, none) => runFrames next settings n
    | (last, some failure) => (last, some failure)

def finish (s : Session) (settings : Settings) : Session × Option RunFailure :=
  if settings.drawing = .atEnd then s.draw else (s, none)

def run (s : Session) (settings : Settings) : Session × Option RunFailure :=
  match s.pressAll settings.heldKeys with
  | (refused, some fault) => (refused, some (.fault fault))
  | (ready, none) =>
    match ready.runFrames settings settings.frames with
    | (last, none) => last.finish settings
    | (last, some failure) => (last, some failure)

end Session
end ChipEight
