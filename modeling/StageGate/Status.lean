/-!
How far the work on a stage has come.
-/

set_option autoImplicit false

namespace StageGate

/-- A skipped stage can stand in a project file; no step of the pipeline produces one. -/
inductive Status where
  | pending | inProgress | completed | skipped
  deriving DecidableEq, Repr, Inhabited

namespace Status

def all : List Status := [pending, inProgress, completed, skipped]

def name : Status → String
  | pending => "pending"
  | inProgress => "in_progress"
  | completed => "completed"
  | skipped => "skipped"

def glyph : Status → String
  | pending => "○"
  | inProgress => "▶"
  | completed => "✓"
  | skipped => "⏭"

def ofName? (text : String) : Option Status := all.find? (·.name = text)

theorem ofName?_name (s : Status) : ofName? s.name = some s := by cases s <;> decide

theorem ofName?_eq_some_iff {text : String} {s : Status} :
    ofName? text = some s ↔ text = s.name := by
  refine ⟨fun h => ?_, fun h => h ▸ ofName?_name s⟩
  have := List.find?_some h
  simpa [eq_comm] using this

end Status

end StageGate
