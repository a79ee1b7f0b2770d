import StageGate.Disk.Path
import StageGate.Stage

/-!
Where the files of a project stand: the project file and the documents of the stages, all in one
folder.
-/

set_option autoImplicit false

namespace StageGate

structure Layout where
  folder : Path
  deriving DecidableEq, Repr

namespace Layout

def standardFolder : String := "sdd"

def projectFileName : String := "sdd.json"

def settingsFileName : String := "specgate.toml"

def of (root : Path) (folder : String) : Layout := ⟨root.join folder⟩

def standard (root : Path) : Layout := of root standardFolder

def projectFile (l : Layout) : Path := l.folder.join projectFileName

def artifact? (l : Layout) (s : Stage) : Option Path := s.artifact?.map l.folder.join

end Layout

end StageGate
