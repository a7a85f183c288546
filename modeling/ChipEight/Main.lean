import ChipEight.LiveRun

/-!
# The executable

Connects a launch to the outside world: the arguments, the program's file, the clock and the two
output streams. What it does there is `CommandLine.play`; here is only what each action means.
-/

namespace ChipEight.Terminal

/-- The code of a name that is too long. A failure to open comes with its code negated. -/
def nameTooLong : UInt32 := 0 - 36

def lookUpFile (path : String) : IO PathTarget := do
  try
    let contents ← IO.FS.readBinFile path
    return .file contents.toList
  catch
    | .noFileOrDirectory _ _ _ => return .missing
    | .inappropriateType _ 21 _ => return .directory
    | .inappropriateType _ _ _ => return .throughFile
    | .permissionDenied _ _ _ => return .forbidden
    | e@(.invalidArgument _ code _) =>
      return if code = nameTooLong then .tooLong else .unopenable (toString e)
    | e => return .unopenable (toString e)

/-- A source of random words that is different for each run. -/
def entropySource : IO RandomSource := do
  let bytes ← IO.getRandomBytes 8
  return .ofSeed (bytes.toList.foldl (fun s b => s * 256 + b.toUInt64) 0)

/-- The level of detail of the log: what is less urgent than a warning is not shown. -/
def threshold : Option Level := some .error

def frameMilliseconds : Nat := 1000 / Timers.frequency

/-- Acts on the two streams, and waits for the time that a frame has left. `clock` holds the time at
which the frame began. -/
def act (clock : IO.Ref Nat) : Action → IO Unit
  | .write data => do
    let out ← IO.getStdout
    out.write data
    out.flush
  | .ring => IO.eprint "\x07"
  | .log event => IO.eprintln event.line
  | .report text => IO.eprint text
  | .wait => do
    let elapsed := (← IO.monoMsNow) - (← clock.get)
    IO.sleep (UInt32.ofNat (frameMilliseconds - elapsed))
    clock.set (← IO.monoMsNow)

def invoke (args : List String) : IO UInt32 := do
  let command := CommandLine.read args
  let entropy ← entropySource
  let target ←
    match command with
    | .run a => lookUpFile a.path
    | _ => pure .missing
  let clock ← IO.mkRef (← IO.monoMsNow)
  let status ← command.play threshold (fun _ => target) entropy (act clock)
  return UInt32.ofNat status

end ChipEight.Terminal

def main (args : List String) : IO UInt32 := ChipEight.Terminal.invoke args
