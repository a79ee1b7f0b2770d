import StageGate.Clarity.Score
import StageGate.Pipeline
import StageGate.Store

/-!
The commands. Those that change a project share one shape: the project is loaded, the command checks
that it may act and makes its change (`Command.revise`), and only then the project is saved.
-/

set_option autoImplicit false

namespace StageGate

inductive Command where
  | init (name description : String) (mode : Mode)
  | status
  | start (stage : Stage)
  | advance (stage : Stage)
  | clarify (scores : Option String)
  | validate
  deriving DecidableEq, Repr

inductive Outcome where
  | done
  /-- No scores were given; the dimensions to judge were shown. -/
  | framework
  | gatePassed (score threshold : UInt8)
  | needsClarification (score threshold : UInt8) (uncovered : List Clarity.Dimension)
  deriving DecidableEq, Repr

namespace Command

open Session

/-- Every document before the final stage must be a text that is not blank; the first one that is not
is reported. -/
def checkArtifacts (layout : Layout) : Session Unit :=
  (Stage.order.filter fun s => !s.isFinal).forM fun s =>
    match layout.artifact? s with
    | none => return ()
    | some path => do
      let text ← onDisk (.readArtifact s) path ((← disk).readText path)
      if Text.isBlankText text then throw (.blankArtifact path)

def givenScores (scores : Option String) : Option String :=
  (scores.map Text.trimmed).filter (· ≠ "")

/-- One round of judgement. The new score replaces the old one, whatever it was; the project advances
if the score meets the threshold. -/
def judge (p : Project) (list : String) : Session (Project × Outcome) := do
  let scored := Clarity.applyScores list Clarity.blankRatings
  note (scored.warnings.map .scoreIgnored ++ [.scoresApplied scored.applied])
  let score := Clarity.score scored.ratings
  let p := { p with score }
  if p.threshold ≤ score then
    return (← Pipeline.advance p, .gatePassed score p.threshold)
  else
    return (p, .needsClarification score p.threshold (Clarity.uncovered scored.ratings))

def revise (layout : Layout) (p : Project) : Command → Session (Project × Outcome)
  | init .. | status => return (p, .done)
  | start s => do
    orRefuse (p.requireStage s)
    return (← Pipeline.enterRound p, .done)
  | advance s => do
    orRefuse (p.requireStage s)
    let p ← if p.current.status = .pending then Pipeline.enterRound p else pure p
    return (← Pipeline.advance p, .done)
  | clarify scores => do
    orRefuse (p.requireStage .clarify)
    let p ← Pipeline.enterRound p
    match givenScores scores with
    | none => return (p, .framework)
    | some list => judge p list
  | validate => do
    orRefuse (p.requireStage .validate)
    checkArtifacts layout
    return (← Pipeline.finish (← Pipeline.enterRound p), .done)

def begin (layout : Layout) (name description : String) (mode : Mode) : Session Project := do
  let name := Text.trimmed name
  let description := Text.trimmed description
  if name = "" then throw .blankName
  if description = "" then throw .blankDescription
  if ← Store.isInitialized layout then throw (.alreadyInitialized layout.projectFile)
  Store.save layout (← Pipeline.create name description mode)

end Command

end StageGate
