import StageGate.Project.Basic
import StageGate.Project.Refusal

/-!
The steps of the pipeline. A project moves to the next stage or stays where it is; it leaves clarify
only with a score that meets the threshold of its mode. Every step checks before it changes anything.
-/

set_option autoImplicit false

namespace StageGate.Project

def destination (p : Project) : Except Refusal Stage :=
  if p.stage = .clarify ∧ p.score < p.threshold then
    .error (.gateNotMet p.score p.threshold p.mode)
  else match p.stage.next? with
    | some s => .ok s
    | none => .error (.atFinalStage p.stage)

def requireStage (p : Project) (expected : Stage) : Except Refusal Unit :=
  if p.stage = expected then .ok () else .error (.wrongStage p.stage expected)

/-- A project that has passed init in a single round and waits for its proposal. -/
def create (name description : String) (mode : Mode) (now : Instant) : Project :=
  let p := (blank name description mode now).updateEntry .init fun e =>
    (e.enter now).complete now
  { p with stage := .propose }

def enterRound (p : Project) (now : Instant) : Project := p.updateEntry p.stage (·.enter now)

def moveTo (p : Project) (s : Stage) (now : Instant) : Project :=
  let left := p.updateEntry p.stage (·.complete now)
  { left with stage := s }.updateEntry s (·.enter now)

def advance (p : Project) (now : Instant) : Except Refusal Project := do
  let s ← p.destination
  return p.moveTo s now

def finish (p : Project) (now : Instant) : Except Refusal Project :=
  if p.stage.isFinal then .ok (p.updateEntry p.stage (·.complete now))
  else .error (.wrongStage p.stage .validate)

end StageGate.Project
