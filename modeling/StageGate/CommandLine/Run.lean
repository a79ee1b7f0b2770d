import StageGate.Command.Run
import StageGate.CommandLine.Request
import StageGate.Settings.Load

/-!
From a command line to its ending. The settings of the root say where the project stands, and they
must be right for every command.
-/

set_option autoImplicit false

namespace StageGate.CommandLine

open Session

def Order.layout (o : Order) (s : Settings) : Layout := .of o.root s.folder

def Order.run (o : Order) : Session Outcome := do
  let settings ← Settings.load o.root
  Command.run (o.layout settings) (o.command settings.mode)

/-- The paths that a command can look at or write to. Below which folder they stand is known from the
settings on the disk. -/
def Order.paths (o : Order) (d : Disk) : List Path :=
  Settings.file o.root :: match Settings.find d o.root with
    | .ok s =>
      let layout := o.layout s
      layout.projectFile :: Stage.order.filterMap layout.artifact?
    | .error _ => []

def programName : String := "specgate"

def programVersion : String := "0.1.0"

def usage : String := s!"Usage: {programName} [OPTIONS] <COMMAND>"

def helpText : List String := [
  "Spec-driven development pipeline with a clarity gate",
  "",
  usage,
  "",
  "Commands:",
  "  init NAME DESCRIPTION [-m|--mode MODE]",
  "                            Create a new project and move it past the init stage",
  "  status                    Show pipeline progress and the next step",
  "  start STAGE               Start another round of work on the current stage",
  "  advance STAGE             Complete the current stage and move to the next one",
  "  clarify [-s|--scores TEXT]",
  "                            Run a Clarity Gate round",
  "  validate                  Record the final validation and complete the pipeline",
  "",
  "Options:",
  "      --root ROOT  Project root (defaults to the current directory)",
  "  -v, --verbose    Log pipeline decisions to stderr",
  "  -h, --help       Print help",
  "  -V, --version    Print version"]

inductive Ending where
  | done (outcome : Outcome)
  | failed (failure : Failure)
  | stopped (why : Stop)

namespace Ending

def exitCode : Ending → UInt8
  | done _ | stopped .version | stopped .help => 0
  | failed _ => 1
  | stopped .misused => 2

def shown : Ending → List Screen.Line
  | stopped .version => [[Screen.plain s!"{programName} {programVersion}"]]
  | stopped .help => helpText.map fun line => [Screen.plain line]
  | _ => []

/-- The lines of complaint. A failure tells its outermost message first and all causes below it, which
are numbered if there are several. -/
def complaint : Ending → List String
  | failed failure =>
    match failure.messages with
    | [] => []
    | [message] => ["Error: " ++ message]
    | [message, cause] => ["Error: " ++ message, "", "Caused by:", "    " ++ cause]
    | message :: causes =>
      ["Error: " ++ message, "", "Caused by:"] ++
        causes.zipIdx.map fun (cause, i) => s!"    {i}: {cause}"
  | stopped .misused => ["error: the command line is not understood", "", usage]
  | _ => []

end Ending

def run (words : List String) (w : Surroundings) : Ending × Surroundings :=
  match read words with
  | .ok order =>
    match StateT.run (ExceptT.run order.run) w with
    | (.ok outcome, w) => (.done outcome, w)
    | (.error failure, w) => (.failed failure, w)
  | .error why =>
    (.stopped why, { w with screen := w.screen ++ (Ending.stopped why).shown })

end StageGate.CommandLine
