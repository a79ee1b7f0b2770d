import StageGate.Project.Transition
import StageGate.Session

/-!
The steps of the pipeline as commands take them: each adds to the journal what it did, and an advance
that is refused is noted as well.
-/

set_option autoImplicit false

namespace StageGate.Pipeline

open Session

def create (name description : String) (mode : Mode) : Session Project := do
  let p := Project.create name description mode (← now)
  note [.created p.name mode]
  return p

def enterRound (p : Project) : Session Project := do
  let p := p.enterRound (← now)
  note [.roundBegun p.stage p.current.rounds]
  return p

def advance (p : Project) : Session Project := do
  match p.advance (← now) with
  | .ok q =>
    note [.advanced p.stage q.stage]
    return q
  | .error reason =>
    note [.advanceRefused p.stage reason]
    throw (.refused reason)

def finish (p : Project) : Session Project := do
  let q ← orRefuse (p.finish (← now))
  note [.finished q.stage]
  return q

end StageGate.Pipeline
