/-!
The seven stages of a project, in the order in which they are passed. `Stage.order` is that order, and
`Stage.next?` is the only way forward: one step along it.
-/

set_option autoImplicit false

namespace StageGate

inductive Stage where
  | init | propose | specify | clarify | design | tasks | validate
  deriving DecidableEq, Repr, Inhabited

namespace Stage

def order : List Stage := [init, propose, specify, clarify, design, tasks, validate]

def name : Stage → String
  | init => "init"
  | propose => "propose"
  | specify => "specify"
  | clarify => "clarify"
  | design => "design"
  | tasks => "tasks"
  | validate => "validate"

def title : Stage → String
  | init => "Initialize"
  | propose => "Propose"
  | specify => "Specify"
  | clarify => "Clarify"
  | design => "Design"
  | tasks => "Tasks"
  | validate => "Validate"

def summary : Stage → String
  | init => "Set up project context, constraints, and pipeline structure"
  | propose => "Transform a vague idea into a structured proposal"
  | specify => "Extract formal requirements from the proposal"
  | clarify => "Detect and resolve ambiguities through the Clarity Gate"
  | design => "Create technical architecture and design decisions"
  | tasks => "Break down design into atomic, actionable tasks"
  | validate => "Verify consistency across all artifacts"

/-- The document that the work on a stage leaves in the project's folder. -/
def artifact? : Stage → Option String
  | init => none
  | propose => some "proposal.md"
  | specify => some "requirements.md"
  | clarify => some "clarifications.md"
  | design => some "design.md"
  | tasks => some "tasks.md"
  | validate => some "validation.md"

def position : Stage → Nat
  | init => 0
  | propose => 1
  | specify => 2
  | clarify => 3
  | design => 4
  | tasks => 5
  | validate => 6

def next? (s : Stage) : Option Stage := order[s.position + 1]?

def isFinal (s : Stage) : Bool := s.next?.isNone

def ofName? (text : String) : Option Stage := order.find? (·.name = text)

def label (s : Stage) : String := s.title ++ " (" ++ s.name ++ ")"

theorem mem_order (s : Stage) : s ∈ order := by cases s <;> decide

@[simp] theorem getElem?_order_position (s : Stage) : order[s.position]? = some s := by
  cases s <;> rfl

theorem position_inj {s t : Stage} (h : s.position = t.position) : s = t := by
  cases s <;> cases t <;> simp_all [position]

theorem ofName?_name (s : Stage) : ofName? s.name = some s := by cases s <;> decide

theorem eq_name_of_ofName? {text : String} {s : Stage} (h : ofName? text = some s) :
    text = s.name := by
  have := List.find?_some h
  simpa [eq_comm] using this

theorem ofName?_eq_some_iff {text : String} {s : Stage} : ofName? text = some s ↔ text = s.name :=
  ⟨eq_name_of_ofName?, fun h => h ▸ ofName?_name s⟩

end Stage

end StageGate
