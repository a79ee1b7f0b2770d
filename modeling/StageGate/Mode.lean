import StageGate.Text.Blank
import StageGate.Text.LowerCase

/-!
How strictly a project is held at the clarity gate. The mode is chosen once, when the project is made.
-/

set_option autoImplicit false

namespace StageGate

inductive Mode where
  | guided | expert
  deriving DecidableEq, Repr, Inhabited

namespace Mode

def standard : Mode := guided

def all : List Mode := [guided, expert]

def name : Mode → String
  | guided => "guided"
  | expert => "expert"

/-- The clarity score that opens the gate. -/
def threshold : Mode → UInt8
  | guided => 70
  | expert => 50

def ofName? (text : String) : Option Mode := all.find? (·.name = text)

/-- The word a user meant: blank ends and the case of its letters do not count. -/
def word (text : String) : String := .ofList (Text.lower (Text.trim text.toList))

def read (text : String) : Except String Mode :=
  match ofName? (word text) with
  | some m => .ok m
  | none => .error (word text)

def invalidMessage (word : String) : String :=
  s!"invalid mode '{word}' (expected 'guided' or 'expert')"

theorem ofName?_name (m : Mode) : ofName? m.name = some m := by cases m <;> decide

theorem ofName?_eq_some_iff {text : String} {m : Mode} : ofName? text = some m ↔ text = m.name := by
  refine ⟨fun h => ?_, fun h => h ▸ ofName?_name m⟩
  have := List.find?_some h
  simpa [eq_comm] using this

end Mode

end StageGate
