import StageGate.Project.Basic

/-!
What to do next, given where a project stands.
-/

set_option autoImplicit false

namespace StageGate.Project

def guidance (p : Project) : String :=
  match p.stage with
  | .init => "Run `specgate init` to start a new project."
  | .propose => "Write the proposal (proposal.md), then run `specgate advance propose`."
  | .specify =>
    "Extract formal requirements (requirements.md), then run `specgate advance specify`."
  | .clarify =>
    "Run `specgate clarify` to get the Clarity Gate dimensions. " ++
      s!"Current score: {p.score}/{p.threshold} needed."
  | .design => "Write the technical design (design.md), then run `specgate advance design`."
  | .tasks => "Break the design into tasks (tasks.md), then run `specgate advance tasks`."
  | .validate =>
    if p.isCompleted .validate then "Pipeline complete. All artifacts have been validated."
    else "Cross-check every artifact, then run `specgate validate`."

end StageGate.Project
