import ChipEight.HostRun

/-!
# The command line

Reading arguments. Long options take their value from behind an equals sign or from the next
argument, which must then not look like an option; flags take no value; short flags may be joined.
Every option and flag may be given once. What is neither is the path of the program, and behind a
double dash everything is. Arguments are read in order and the first thing that ends the reading
counts: a misuse, or a request for the version or for help.
-/

namespace ChipEight

structure Arguments where
  path : String
  stepsPerTick : Nat
  frames : Nat
  realtime : Bool
  hold : String
  seed : Option UInt64
  drawing : Drawing
  quiet : Bool

/-- The result of reading a command line. -/
inductive CommandLine where
  | run (arguments : Arguments)
  | version
  | help
  | misuse

namespace CommandLine

inductive ValueOption where
  | stepsPerTick | frames | hold | seed | render
  deriving DecidableEq

inductive Flag where
  | realtime | quiet | version | help
  deriving DecidableEq

def ValueOption.ofName? : String → Option ValueOption
  | "steps-per-tick" => some .stepsPerTick
  | "frames" => some .frames
  | "hold" => some .hold
  | "seed" => some .seed
  | "render" => some .render
  | _ => none

def Flag.ofName? : String → Option Flag
  | "realtime" => some .realtime
  | "quiet" => some .quiet
  | "version" => some .version
  | "help" => some .help
  | _ => none

def Flag.ofLetter? : Char → Option Flag
  | 'q' => some .quiet
  | 'V' => some .version
  | 'h' => some .help
  | _ => none

inductive Form where
  /-- A double dash alone. -/
  | separator
  /-- Two dashes and a name, perhaps with a value behind an equals sign. -/
  | long (name : String) (value : Option String)
  /-- A dash and letters. -/
  | short (letters : List Char)
  /-- Anything else; a dash alone is also of this form. -/
  | plain (text : String)

/-- The name before the first equals sign and the value behind it. -/
def splitValue (text : List Char) : String × Option String :=
  match text.dropWhile (· != '=') with
  | [] => (String.ofList text, none)
  | _ :: value => (String.ofList (text.takeWhile (· != '=')), some (String.ofList value))

def Form.ofString (text : String) : Form :=
  match text.toList with
  | ['-', '-'] => .separator
  | '-' :: '-' :: rest => let parts := splitValue rest; .long parts.1 parts.2
  | '-' :: c :: rest => .short (c :: rest)
  | _ => .plain text

/-- The value of a sequence of decimal digits that is not empty. -/
def decimal? (digits : List Char) : Option Nat :=
  if digits.isEmpty || !digits.all Char.isDigit then none
  else some (digits.foldl (fun n c => 10 * n + (c.toNat - '0'.toNat)) 0)

/-- A number below a bound, perhaps with a plus sign. -/
def numberBelow? (bound : Nat) (text : String) : Option Nat :=
  (match text.toList with
    | '+' :: digits => decimal? digits
    | digits => decimal? digits).filter (· < bound)

/-- A number below a bound, with either sign; with a minus sign only zero is one. -/
def signedBelow? (bound : Nat) (text : String) : Option Nat :=
  match text.toList with
  | '-' :: digits => (decimal? digits).filter (· = 0)
  | _ => numberBelow? bound text

def drawing? : String → Option Drawing
  | "final" => some .atEnd
  | "every" => some .everyFrame
  | "off" => some .never
  | _ => none

structure Draft where
  path : Option String
  stepsPerTick : Option Nat
  frames : Option Nat
  realtime : Bool
  hold : Option String
  seed : Option Nat
  drawing : Option Drawing
  quiet : Bool

namespace Draft

def empty : Draft := ⟨none, none, none, false, none, none, none, false⟩

/-- Takes the value of an option, unless it has one or the value is none of its values. -/
def setOption (d : Draft) (o : ValueOption) (text : String) : Option Draft :=
  match o with
  | .stepsPerTick =>
    if d.stepsPerTick.isSome then none
    else (signedBelow? UInt32.size text).map fun n => { d with stepsPerTick := some n }
  | .frames =>
    if d.frames.isSome then none
    else (numberBelow? UInt64.size text).map fun n => { d with frames := some n }
  | .hold => if d.hold.isSome then none else some { d with hold := some text }
  | .seed =>
    if d.seed.isSome then none
    else (numberBelow? UInt64.size text).map fun n => { d with seed := some n }
  | .render =>
    if d.drawing.isSome then none
    else (drawing? text).map fun r => { d with drawing := some r }

def setPath (d : Draft) (text : String) : Option Draft :=
  if d.path.isSome || text.isEmpty then none else some { d with path := some text }

def defaultFrames : Nat := 10 * Timers.frequency

def finish (d : Draft) : CommandLine :=
  match d.path with
  | none => .misuse
  | some path => .run {
      path
      stepsPerTick := d.stepsPerTick.getD Timers.stepsPerTick
      frames := d.frames.getD defaultFrames
      realtime := d.realtime
      hold := d.hold.getD ""
      seed := d.seed.map UInt64.ofNat
      drawing := d.drawing.getD .atEnd
      quiet := d.quiet }

/-- Takes a flag. The result is a draft to go on with or the end of the reading. -/
def setFlag (d : Draft) : Flag → Except CommandLine Draft
  | .realtime => if d.realtime then .error .misuse else .ok { d with realtime := true }
  | .quiet => if d.quiet then .error .misuse else .ok { d with quiet := true }
  | .version => .error .version
  | .help => .error .help

def setLetters (d : Draft) : List Char → Except CommandLine Draft
  | [] => .ok d
  | c :: rest =>
    match Flag.ofLetter? c with
    | none => .error .misuse
    | some flag =>
      match d.setFlag flag with
      | .ok next => next.setLetters rest
      | .error stop => .error stop

def readPaths (d : Draft) : List String → CommandLine
  | [] => d.finish
  | text :: rest =>
    match d.setPath text with
    | some next => next.readPaths rest
    | none => .misuse

/-- Whether an argument cannot be the value of the option before it. -/
def looksLikeOption (text : String) : Bool :=
  match Form.ofString text with
  | .plain _ => false
  | _ => true

def read (d : Draft) : List String → CommandLine
  | [] => d.finish
  | text :: rest =>
    match Form.ofString text with
    | .separator => d.readPaths rest
    | .plain path =>
      match d.setPath path with
      | some next => next.read rest
      | none => .misuse
    | .short letters =>
      match d.setLetters letters with
      | .ok next => next.read rest
      | .error stop => stop
    | .long name value =>
      match Flag.ofName? name, ValueOption.ofName? name, value with
      | some flag, _, none =>
        match d.setFlag flag with
        | .ok next => next.read rest
        | .error stop => stop
      | none, some o, some given =>
        match d.setOption o given with
        | some next => next.read rest
        | none => .misuse
      | none, some o, none =>
        match rest with
        | given :: others =>
          if looksLikeOption given then .misuse
          else
            match d.setOption o given with
            | some next => next.read others
            | none => .misuse
        | [] => .misuse
      | _, _, _ => .misuse

end Draft

def read (arguments : List String) : CommandLine := Draft.empty.read arguments

end CommandLine
end ChipEight
