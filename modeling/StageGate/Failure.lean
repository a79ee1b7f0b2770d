import StageGate.Disk.Basic
import StageGate.Project.Fault
import StageGate.Project.Refusal
import StageGate.Settings.Fault

/-!
Why a command fails. A failure keeps its cause; `Failure.messages` tells it from what was attempted down
to what went wrong.
-/

set_option autoImplicit false

namespace StageGate

/-- What was done to a file or folder when the disk refused it. -/
inductive Attempt where
  | openFile | readFile | openForWriting | makeFolder | readSettings | readArtifact (stage : Stage)
  deriving DecidableEq, Repr

namespace Attempt

def message (path : Path) : Attempt → String
  | openFile => "Failed to open file: " ++ path.text
  | readFile => "Failed to read file: " ++ path.text
  | openForWriting => "Failed to open file for writing: " ++ path.text
  | makeFolder => "Failed to create directory " ++ path.text
  | readSettings => "Failed to read " ++ path.text
  | readArtifact stage => s!"Failed to read {stage.name} artifact: " ++ path.text

end Attempt

inductive Failure where
  | refused (reason : Refusal)
  | notInitialized (projectFile : Path)
  | alreadyInitialized (projectFile : Path)
  | blankName
  | blankDescription
  | blankArtifact (path : Path)
  | onDisk (attempt : Attempt) (path : Path) (fault : DiskFault)
  | badProject (path : Path) (fault : DocumentFault)
  | badSettings (path : Path) (fault : SettingsFault)

namespace Failure

/-- The messages from the outermost to the innermost. -/
def messages : Failure → List String
  | refused reason => [reason.message]
  | notInitialized path =>
    [s!"project not initialized at {path.text} - run `specgate init` first"]
  | alreadyInitialized path => [s!"project already initialized at {path.text}"]
  | blankName => ["project name must not be empty"]
  | blankDescription => ["project description must not be empty"]
  | blankArtifact path =>
    [s!"{path.text} is empty - all previous stages must be completed before validation"]
  | onDisk attempt path fault => [attempt.message path, fault.message]
  | badProject path fault => ("Failed to parse " ++ path.text) :: fault.messages
  | badSettings path fault => ["Failed to parse " ++ path.text, fault.message]

end Failure

end StageGate
