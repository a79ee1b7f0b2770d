import StageGate.Command.Basic
import StageGate.Project.Guidance

/-!
What commands show when they succeed.
-/

set_option autoImplicit false

namespace StageGate

open Screen

namespace Status

def badge : Status → Span
  | completed => boldColoured .green completed.glyph
  | inProgress => boldColoured .blue inProgress.glyph
  | skipped => coloured .yellow skipped.glyph
  | pending => dim pending.glyph

end Status

namespace Command

def initReport (p : Project) : List Line := [
  [plain "  ", boldColoured .green "✓", plain " Initialized project ", bold p.name,
    plain s!" ({p.mode.name} mode, clarity threshold {p.threshold})"],
  [plain "  Next: write the proposal, then run ", coloured .cyan "specgate advance propose"]]

def startReport (s : Stage) (p : Project) : List Line := [
  [plain "  ", boldColoured .blue "▶", plain s!" {s.label} in progress (round {p.current.rounds})"]]

def advanceReport (s : Stage) (p : Project) : List Line := [
  [plain "  ", boldColoured .green "✓", plain s!" {s.label} completed"],
  [plain "  Now at ", bold p.stage.label]]

def validateReport (p : Project) : List Line := [
  [plain "  ", boldColoured .green "✓", plain " Pipeline complete for ", bold p.name]]

def dimensionReport (d : Clarity.Dimension) : List Line := [
  [plain "  ", bold d.name, plain " ", dim s!"(weight: {d.weight}/10)"],
  [plain ("    " ++ d.question)]]

def frameworkReport (p : Project) : List Line :=
  [[boldColoured .blue "Clarity Gate Analysis"],
   [plain (s!"  Mode: {p.mode.name} | Threshold: {p.threshold}/100 | " ++
      s!"Round: {p.current.rounds}")],
   [],
   [plain "  Score each dimension 0-100 against the current requirements."],
   [plain "  A dimension counts as covered above 30."],
   []] ++
  Clarity.Dimension.all.flatMap dimensionReport ++
  [[],
   [plain "  Then run: ",
    coloured .cyan "specgate clarify --scores \"target_users:80,core_functionality:70,...\""]]

def passedReport (score threshold : UInt8) : List Line := [
  [plain "  ", boldColoured .green "✓",
    plain s!" Clarity Gate PASSED: {score}/100 (threshold {threshold})"],
  [plain "  Pipeline advanced to ", bold "Design"]]

def needsReport (score threshold : UInt8) (uncovered : List Clarity.Dimension) : List Line :=
  [[plain "  ", boldColoured .yellow "✗",
    plain s!" More clarification needed: {score}/100 (need {threshold})"]] ++
  (if uncovered = [] then []
   else [[plain ("  Weak areas: " ++ ", ".intercalate (uncovered.map (·.name)))]]) ++
  [[plain "  Run ", coloured .cyan "specgate clarify", plain " again for the next round."]]

def clarifyReport (p : Project) : Outcome → List Line
  | .done => []
  | .framework => frameworkReport p
  | .gatePassed score threshold => passedReport score threshold
  | .needsClarification score threshold uncovered => needsReport score threshold uncovered

def stageLine (p : Project) (s : Stage) : Line :=
  let e := p.entries s
  [plain "  ", e.status.badge,
    plain (s!" {padRight 12 s.title} {padRight 12 e.status.name} iterations: {e.rounds}")] ++
  (if s = p.stage then [coloured .cyan " ← current"] else [])

def scoreLine (p : Project) : Line := [
  plain "  Clarity score: ",
  coloured (if p.threshold ≤ p.score then .green else .yellow) s!"{p.score}/100",
  plain s!" (need {p.threshold} for {p.mode.name} mode)"]

def statusReport (p : Project) : List Line :=
  [[boldColoured .blue s!"Project: {p.name}"],
   [plain (repeated 50 '=')],
   [plain ("  Description:  " ++ p.description)],
   [plain ("  Mode:         " ++ p.mode.name)],
   [plain ("  Created:      " ++ p.createdAt.writeWithOffset)],
   [plain ("  Last updated: " ++ p.updatedAt.writeWithOffset)],
   [],
   [bold "Current stage:", plain (" " ++ p.stage.label)],
   [plain "  ", dim p.stage.summary]] ++
  (if p.stage = .clarify then [scoreLine p] else []) ++
  [[],
   [bold "Pipeline"],
   [dim (repeated 50 '─')]] ++
  Stage.order.map (stageLine p) ++
  [[],
   [bold "Next step"],
   [plain ("  " ++ p.guidance)],
   []]

def report (p : Project) (o : Outcome) : Command → List Line
  | init .. => initReport p
  | status => statusReport p
  | start s => startReport s p
  | advance s => advanceReport s p
  | clarify _ => clarifyReport p o
  | validate => validateReport p

end Command

end StageGate
