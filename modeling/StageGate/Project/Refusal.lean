import StageGate.Mode
import StageGate.Stage

/-!
Why a step of the pipeline is refused. A refused step changes nothing.
-/

set_option autoImplicit false

namespace StageGate

inductive Refusal where
  /-- The project stands at the gate and its score is below the threshold of its mode. -/
  | gateNotMet (score threshold : UInt8) (mode : Mode)
  | atFinalStage (stage : Stage)
  | wrongStage (actual expected : Stage)
  deriving DecidableEq, Repr

namespace Refusal

def message : Refusal → String
  | gateNotMet score threshold mode =>
    s!"clarity gate not passed: score {score}/100 (need {threshold} for {mode.name} mode) - " ++
      "run another clarify round to resolve ambiguities"
  | atFinalStage stage => s!"already at the final stage: {stage.name}"
  | wrongStage actual expected =>
    s!"wrong pipeline stage: currently at '{actual.name}' ({actual.title}), " ++
      s!"but this operation requires '{expected.name}' ({expected.title})"

end Refusal

end StageGate
