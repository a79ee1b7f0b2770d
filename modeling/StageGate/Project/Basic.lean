import StageGate.Mode
import StageGate.Project.Entry
import StageGate.Stage

/-!
A project: what it is called, how strictly it is held, the stage at which it stands, the progress of
every stage, and its clarity score.
-/

set_option autoImplicit false

namespace StageGate

structure Project where
  name : String
  description : String
  version : String
  mode : Mode
  stage : Stage
  createdAt : Instant
  updatedAt : Instant
  entries : Stage → Entry
  /-- The score of the last judgement; it means something once clarify has run. -/
  score : UInt8

namespace Project

def formatVersion : String := "0.1.0"

def blank (name description : String) (mode : Mode) (now : Instant) : Project :=
  { name, description, version := formatVersion, mode, stage := .init, createdAt := now,
    updatedAt := now, entries := fun _ => .untouched, score := 0 }

def current (p : Project) : Entry := p.entries p.stage

def isCompleted (p : Project) (s : Stage) : Bool := (p.entries s).status = .completed

def threshold (p : Project) : UInt8 := p.mode.threshold

def updateEntry (p : Project) (s : Stage) (f : Entry → Entry) : Project :=
  { p with entries := fun t => if t = s then f (p.entries t) else p.entries t }

@[simp] theorem updateEntry_entries_self (p : Project) (s : Stage) (f : Entry → Entry) :
    (p.updateEntry s f).entries s = f (p.entries s) := by simp [updateEntry]

theorem updateEntry_entries_of_ne {p : Project} {s t : Stage} {f : Entry → Entry} (h : t ≠ s) :
    (p.updateEntry s f).entries t = p.entries t := by simp [updateEntry, h]

end Project

end StageGate
