import ChipEight.CommandLine
import ChipEight.KeyboardLayout
import ChipEight.QuotedCharacter

/-!
# Launching a run

From arguments to a finished run. The stages come in a fixed order, and the first that fails
decides the outcome: the keys to hold are read, the program is opened, it is loaded, and the
machine runs. What the paths of the outside world lead to is a parameter, and so is the source of
random words for runs without a seed. The lines of the journal go to the error stream too, but how
they are laid out there, with the time of day, is up to the logger.
-/

namespace ChipEight

/-- What a path leads to. -/
inductive PathTarget where
  /-- Nothing that can be opened, for the given reason. -/
  | unopenable (reason : String)
  /-- Something that can be opened, with what it then delivers. -/
  | source (deliveries : List Delivery)

namespace PathTarget

def missing : PathTarget := .unopenable "No such file or directory (os error 2)"

/-- A path through a file as if it were a directory. -/
def throughFile : PathTarget := .unopenable "Not a directory (os error 20)"

def tooLong : PathTarget := .unopenable "File name too long (os error 36)"

def forbidden : PathTarget := .unopenable "Permission denied (os error 13)"

def directory : PathTarget := .source [.failed "Is a directory (os error 21)"]

def file (contents : List UInt8) : PathTarget := .source [.bytes contents]

end PathTarget

/-- Why a launch failed, by stage. -/
inductive LaunchFailure where
  | unmappedKey (c : Char)
  | cannotOpen (path reason : String)
  | cannotLoad (path : String) (cause : Fault)
  | stopped (cause : RunFailure)

namespace LaunchFailure

def message : LaunchFailure → String
  | .unmappedKey c => QuotedCharacter.quoted c ++ " is not mapped to a Chip-8 key"
  | .cannotOpen path _ => "unable to open " ++ path
  | .cannotLoad path _ => "unable to load " ++ path
  | .stopped cause => cause.message

/-- What lies behind a failure, the nearest cause first. -/
def causes : LaunchFailure → List String
  | .unmappedKey _ => []
  | .cannotOpen _ reason => [reason]
  | .cannotLoad _ (.unreadableRom reason) => [(Fault.unreadableRom reason).message, reason]
  | .cannotLoad _ cause => [cause.message]
  | .stopped (.drawing cause) => [cause.message]
  | .stopped (.fault _) => []

/-- The lines that list causes. Several causes are numbered. -/
def causeLines : List String → List String
  | [] => []
  | [cause] => ["", "Caused by:", "    " ++ cause]
  | several => "" :: "Caused by:" ::
      several.zipIdx.map fun (cause, k) => "    " ++ toString k ++ ": " ++ cause

/-- The report of a failure, as it is written to the error stream. -/
def report (f : LaunchFailure) : String :=
  String.join ((("Error: " ++ f.message) :: causeLines f.causes).map (· ++ "\n"))

end LaunchFailure

/-- What the outside world sees of an invocation, apart from its journal. -/
structure Outcome where
  status : Nat
  output : ByteArray
  errors : String

def Settings.bells (s : Settings) (beeps : Nat) : String :=
  String.ofList (List.replicate (if s.bell then beeps else 0) '\x07')

namespace Arguments

def settings (a : Arguments) (heldKeys : List UInt8) : Settings where
  stepsPerTick := a.stepsPerTick
  frames := a.frames
  heldKeys := heldKeys
  drawing := a.drawing
  realtime := a.realtime
  bell := !a.quiet

def machine (a : Arguments) (entropy : RandomSource) : Machine :=
  Machine.initial (match a.seed with | some seed => .ofSeed seed | none => entropy)

/-- The stages before the run: the settings and a machine with its program. -/
def prepare (a : Arguments) (lookUp : String → PathTarget) (entropy : RandomSource) :
    Except LaunchFailure (Settings × Machine) :=
  match KeyboardLayout.keys a.hold.toList with
  | .error c => .error (.unmappedKey c)
  | .ok heldKeys =>
    match lookUp a.path with
    | .unopenable reason => .error (.cannotOpen a.path reason)
    | .source deliveries =>
      match (a.machine entropy).reset.loadFrom deliveries with
      | .error cause => .error (.cannotLoad a.path cause)
      | .ok machine => .ok (a.settings heldKeys, machine)

def session (a : Arguments) (machine : Machine) (journal : Journal) : Session :=
  .start machine (.initial (a.drawing = .everyFrame) .reliable) journal

/-- The outcome of a launch. Beeps ring the bell on the error stream, before any report. What the
launch keeps a journal of is told apart from that. -/
def launch (a : Arguments) (lookUp : String → PathTarget) (entropy : RandomSource) : Outcome :=
  match a.prepare lookUp entropy with
  | .error failure => ⟨1, .empty, failure.report⟩
  | .ok (settings, machine) =>
    let (last, failure) := (a.session machine (.empty none)).run settings
    let bells := settings.bells last.beeps
    match failure with
    | none => ⟨0, last.display.sink.written, bells⟩
    | some cause =>
      ⟨1, last.display.sink.written, bells ++ (LaunchFailure.stopped cause).report⟩

/-- The journal of the stages before the run. The first that has something to report is the loading,
for which the machine is reset. -/
def stageJournal (a : Arguments) (threshold : Option Level) (lookUp : String → PathTarget)
    (entropy : RandomSource) : Journal :=
  (Journal.empty threshold).record <|
    match KeyboardLayout.keys a.hold.toList, lookUp a.path with
    | .ok _, .source deliveries =>
      let m := a.machine entropy
      m.events .reset ++ m.reset.events (.loadFrom deliveries) ++
        match m.reset.loadFrom deliveries with
        | .ok _ => [.opened a.path]
        | .error _ => []
    | _, _ => []

/-- The journal of a launch from its first stage to its end. -/
def journal (a : Arguments) (threshold : Option Level) (lookUp : String → PathTarget)
    (entropy : RandomSource) : Journal :=
  let staged := a.stageJournal threshold lookUp entropy
  match a.prepare lookUp entropy with
  | .error _ => staged
  | .ok (settings, machine) =>
    match (a.session machine staged).run settings with
    | (last, none) => last.journal.record [.finished last.frames last.beeps]
    | (last, some _) => last.journal

end Arguments

namespace CommandLine

def versionText : String := "emu8 0.1.0\n"

def usageText : String :=
  "Run a Chip-8 ROM headlessly, drawing the screen as text\n\n" ++
  "Usage: emu8 [OPTIONS] <ROM>\n\n" ++
  "Options:\n" ++
  "      --steps-per-tick <N>   CPU steps per 60Hz timer tick (10)\n" ++
  "      --frames <N>           Number of timer ticks to run for (600)\n" ++
  "      --realtime             Pace frames at 60Hz\n" ++
  "      --hold <KEYS>          Keys to hold down for the whole run\n" ++
  "      --seed <N>             Seed for the random number generator\n" ++
  "      --render <WHEN>        When to draw the screen: final, every or off (final)\n" ++
  "  -q, --quiet                Don't ring the terminal bell\n" ++
  "  -h, --help                 Print help\n" ++
  "  -V, --version              Print version\n"

def outcome (c : CommandLine) (lookUp : String → PathTarget) (entropy : RandomSource) : Outcome :=
  match c with
  | .run arguments => arguments.launch lookUp entropy
  | .version => ⟨0, versionText.toUTF8, ""⟩
  | .help => ⟨0, usageText.toUTF8, ""⟩
  | .misuse => ⟨2, .empty, usageText⟩

end CommandLine
end ChipEight
