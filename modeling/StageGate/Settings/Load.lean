import StageGate.Session
import StageGate.Settings.Basic

/-!
Loading the settings of a project folder. Without a settings file the standard settings hold; a file
that is there must be right.
-/

set_option autoImplicit false

namespace StageGate.Settings

def file (root : Path) : Path := root.join Layout.settingsFileName

def find (d : Disk) (root : Path) : Except Failure Settings :=
  let path := file root
  if d.exists path then
    match d.readText path with
    | .error fault => .error (.onDisk .readSettings path fault)
    | .ok text =>
      match ofText text with
      | .ok s => .ok s
      | .error fault => .error (.badSettings path fault)
  else .ok standard

def load (root : Path) : Session Settings := do ofExcept (find (← Session.disk) root)

end StageGate.Settings
