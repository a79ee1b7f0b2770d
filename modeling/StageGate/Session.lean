import StageGate.Failure
import StageGate.Journal
import StageGate.Screen
import StageGate.Time.Instant

/-!
What a command works with: a disk that it reads and changes, one reading of the clock, a journal to
which it adds events, and a screen to which it adds lines. A command that fails keeps what it has done
up to then.
-/

set_option autoImplicit false

namespace StageGate

structure Surroundings where
  disk : Disk
  now : Instant
  journal : List Event
  screen : List Screen.Line

abbrev Session := ExceptT Failure (StateM Surroundings)

namespace Session

def fresh (disk : Disk) (now : Instant) : Surroundings := ⟨disk, now, [], []⟩

def disk : Session Disk := return (← get).disk

def now : Session Instant := return (← get).now

def setDisk (d : Disk) : Session Unit := modify fun w => { w with disk := d }

def note (events : List Event) : Session Unit :=
  modify fun w => { w with journal := w.journal ++ events }

def tell (lines : List Screen.Line) : Session Unit :=
  modify fun w => { w with screen := w.screen ++ lines }

/-- An operation of the disk, whose fault is told with what was attempted. -/
def onDisk {α : Type} (attempt : Attempt) (path : Path) (r : Except DiskFault α) : Session α :=
  match r with
  | .ok x => return x
  | .error e => throw (.onDisk attempt path e)

def orRefuse {α : Type} (r : Except Refusal α) : Session α :=
  match r with
  | .ok x => return x
  | .error e => throw (.refused e)

end Session

end StageGate
