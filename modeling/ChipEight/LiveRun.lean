import ChipEight.Launch

/-!
# Live runs

A launch as it goes on in the outside world. What it does there are actions in an order: lines for
the log, bells, bytes for the output, waiting for the end of a frame, and a report at the end. What
each of them means is a parameter. A run acts behind each frame and behind its end, and a part of it
shows what it has added to the session.
-/

namespace ChipEight

inductive Action where
  | write (data : ByteArray)
  | ring
  | log (event : Event)
  | report (text : String)
  /-- Waiting until the frame under way has taken its time. -/
  | wait

/-- How much of a session has been shown. -/
structure Shown where
  bytes : Nat
  entries : Nat
  beeps : Nat

variable {m : Type → Type} [Monad m]

namespace Session

def shown (s : Session) : Shown :=
  ⟨s.display.sink.written.size, s.journal.entries.size, s.beeps⟩

/-- What is to be shown of a session of which a part has been shown already. A beep is reported
before the bell rings, and the drawing comes behind both. -/
def actionsSince (s : Session) (shown : Shown) (settings : Settings) : List Action :=
  (s.journal.entries.toList.drop shown.entries).map .log ++
    List.replicate (if settings.bell then s.beeps - shown.beeps else 0) .ring ++
    [.write (s.display.sink.written.extract shown.bytes s.display.sink.written.size)]

/-- Works through a number of frames and the end of a run, and acts behind each of them. -/
def play (s : Session) (settings : Settings) (act : Action → m Unit) :
    Nat → m (Session × Option RunFailure)
  | 0 => do
    let shown := s.shown
    let ended := s.finish settings
    (ended.1.actionsSince shown settings).forM act
    return ended
  | n + 1 => do
    let shown := s.shown
    let framed := s.frame settings
    (framed.1.actionsSince shown settings).forM act
    match framed with
    | (next, none) =>
      if settings.realtime then act .wait
      next.play settings act n
    | failed => return failed

end Session

/-- The run of a launch, from the pressing of the keys to its last action, with its exit status. -/
def Session.playRun (s : Session) (settings : Settings) (act : Action → m Unit) : m Nat := do
  let (last, failure) ←
    match s.pressAll settings.heldKeys with
    | (refused, some fault) => pure (refused, some (RunFailure.fault fault))
    | (ready, none) => ready.play settings act settings.frames
  match failure with
  | none =>
    let ended := last.note [.finished last.frames last.beeps]
    (ended.actionsSince last.shown settings).forM act
    return 0
  | some cause =>
    act (.report (LaunchFailure.stopped cause).report)
    return 1

/-- A launch with what it does in the outside world, and its exit status. -/
def Arguments.play (a : Arguments) (threshold : Option Level) (lookUp : String → PathTarget)
    (entropy : RandomSource) (act : Action → m Unit) : m Nat := do
  let staged := a.stageJournal threshold lookUp entropy
  (staged.entries.toList.map Action.log).forM act
  match a.prepare lookUp entropy with
  | .error failure =>
    act (.report failure.report)
    return 1
  | .ok (settings, machine) => (a.session machine staged).playRun settings act

def CommandLine.play (c : CommandLine) (threshold : Option Level) (lookUp : String → PathTarget)
    (entropy : RandomSource) (act : Action → m Unit) : m Nat := do
  match c with
  | .run arguments => arguments.play threshold lookUp entropy act
  | other =>
    let outcome := other.outcome lookUp entropy
    act (.write outcome.output)
    act (.report outcome.errors)
    return outcome.status

end ChipEight
