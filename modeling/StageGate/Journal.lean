import StageGate.Clarity.ScoreList
import StageGate.Disk.Path
import StageGate.Project.Refusal

/-!
The journal of a command: the events that are worth a line, in the order in which they happen.
-/

set_option autoImplicit false

namespace StageGate

inductive Level where
  | debug | info | warn
  deriving DecidableEq, Repr

def Level.name : Level → String
  | debug => "DEBUG"
  | info => "INFO"
  | warn => "WARN"

inductive Event where
  | created (project : String) (mode : Mode)
  | roundBegun (stage : Stage) (rounds : UInt32)
  | advanced (left entered : Stage)
  | advanceRefused (stage : Stage) (reason : Refusal)
  | finished (stage : Stage)
  | scoreIgnored (warning : Clarity.Warning)
  | scoresApplied (applied : Nat)
  | loaded (path : Path) (stage : Stage)
  | saved (path : Path) (stage : Stage)
  deriving DecidableEq, Repr

namespace Event

def level : Event → Level
  | created .. | advanced .. | finished .. => .info
  | scoreIgnored .. => .warn
  | roundBegun .. | advanceRefused .. | scoresApplied .. | loaded .. | saved .. => .debug

def message : Event → String
  | created .. => "initialized pipeline"
  | roundBegun .. => "stage in progress"
  | advanced .. => "pipeline advanced"
  | advanceRefused .. => "advance refused"
  | finished .. => "pipeline completed"
  | scoreIgnored (.noColon _) => "ignoring dimension score without a ':' separator"
  | scoreIgnored (.notANumber _) => "ignoring dimension score with a non-numeric value"
  | scoreIgnored (.unknownDimension _) => "ignoring score for unknown clarity dimension"
  | scoresApplied _ => "applied clarity dimension scores"
  | loaded .. => "loaded project state"
  | saved .. => "saved project state"

/-- What an event is about, under the names that its line has. -/
def fields : Event → List (String × String)
  | created project mode => [("project", project), ("mode", mode.name)]
  | roundBegun stage rounds => [("stage", stage.name), ("iterations", toString rounds)]
  | advanced left entered => [("from", left.name), ("to", entered.name)]
  | advanceRefused stage reason => [("stage", stage.name), ("error", reason.message)]
  | finished stage => [("stage", stage.name)]
  | scoreIgnored (.noColon segment) => [("pair", segment)]
  | scoreIgnored (.notANumber segment) => [("pair", segment)]
  | scoreIgnored (.unknownDimension name) => [("name", name)]
  | scoresApplied applied => [("applied", toString applied)]
  | loaded path stage => [("path", path.text), ("stage", stage.name)]
  | saved path stage => [("path", path.text), ("stage", stage.name)]

def line (e : Event) : String :=
  " ".intercalate (e.level.name :: e.message :: e.fields.map fun (k, v) => k ++ "=" ++ v)

end Event

def Clarity.Scored.events (s : Clarity.Scored) : List Event :=
  s.warnings.map .scoreIgnored ++ [.scoresApplied s.applied]

end StageGate
