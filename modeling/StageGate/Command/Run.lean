import StageGate.Command.Report

/-!
Running a command from beginning to end. Init makes the project that the others load; status only looks
at it; the others save it changed.
-/

set_option autoImplicit false

namespace StageGate.Command

open Session

def run (layout : Layout) (c : Command) : Session Outcome := do
  match c with
  | init name description mode =>
    let p ← begin layout name description mode
    tell (c.report p .done)
    return .done
  | status =>
    let p ← Store.load layout
    tell (c.report p .done)
    return .done
  | _ =>
    let (p, o) ← revise layout (← Store.load layout) c
    let p ← Store.save layout p
    tell (c.report p o)
    return o

end StageGate.Command
