import StageGate.Layout
import StageGate.Project.Document
import StageGate.Session

/-!
The project file. It is read whole and written whole; writing makes the folder that holds it and stamps
the project with the time.
-/

set_option autoImplicit false

namespace StageGate.Store

open Session

def readText (path : Path) : Session String := do
  let item ← onDisk .openFile path ((← disk).find path)
  onDisk .readFile path (Disk.textOf item)

def writeText (path : Path) (text : String) : Session Unit := do
  setDisk (← onDisk .openForWriting path ((← disk).write path text.toUTF8))

def isInitialized (layout : Layout) : Session Bool := return (← disk).exists layout.projectFile

def load (layout : Layout) : Session Project := do
  let path := layout.projectFile
  unless ← isInitialized layout do throw (.notInitialized path)
  match Project.ofText (← readText path) with
  | .ok p =>
    note [.loaded path p.stage]
    return p
  | .error fault => throw (.badProject path fault)

/-- Gives back the project as it was written. -/
def save (layout : Layout) (p : Project) : Session Project := do
  let (made, d) := (← disk).makeFolders layout.folder
  setDisk d
  onDisk .makeFolder layout.folder made
  let p := { p with updatedAt := ← now }
  writeText layout.projectFile p.toText
  note [.saved layout.projectFile p.stage]
  return p

end StageGate.Store
