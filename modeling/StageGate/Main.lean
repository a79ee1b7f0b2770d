import Std.Time.DateTime.Timestamp
import StageGate.CommandLine.Run
import StageGate.Disk.Reach

/-!
The program. It looks at the part of the real disk that a command line can touch, runs the command line
on that, and carries out what has changed.
-/

set_option autoImplicit false

namespace StageGate.Main

def epoch : Instant := ⟨⟨1970, 1, 1, by decide⟩, 0, 0, by decide, by decide, by decide⟩

def readClock : IO Instant := do
  let time ← Std.Time.Timestamp.now
  return (epoch.add? time.toNanosecondsSinceUnixEpoch.val).getD epoch

def textOfPlace (place : Place) : String := "/" ++ "/".intercalate place

/-- The code of the operating system for a folder where a file is expected. -/
def folderCode : UInt32 := 21

def look (place : Place) : IO (Option Item) := do
  try
    return some (.file (← IO.FS.readBinFile (textOfPlace place)))
  catch
    | .inappropriateType _ code _ => return if code = folderCode then some .folder else none
    | .noFileOrDirectory .. => return none
    | e => throw e

def takeOver (d : Disk) (paths : List Path) : IO Disk :=
  (paths.flatMap d.places).foldlM (fun d place => do
    match ← look place with
    | some item => return d.put place item
    | none => return d) d

/-- The disk as far as a command needs it: first its settings, then what they point to. -/
def diskFor (order : CommandLine.Order) : IO Disk := do
  let here := (Path.mk (toString (← IO.currentDir))).names
  let d ← takeOver (Disk.empty here) [Settings.file order.root]
  takeOver d (order.paths d)

def carryOut (changes : List (Place × Item)) : IO Unit :=
  changes.forM fun (place, item) =>
    match item with
    | .folder => IO.FS.createDir (textOfPlace place)
    | .file content => IO.FS.writeBinFile (textOfPlace place) content

/-- The places that a command line can touch, and the disk there. -/
def survey (args : List String) : IO (List Place × Disk) := do
  match CommandLine.read args with
  | .ok order =>
    let d ← diskFor order
    return (((order.paths d).flatMap d.places).eraseDups, d)
  | .error _ => return ([], .empty [])

def told (args : List String) (e : Event) : Bool :=
  match CommandLine.read args with
  | .ok order => order.verbose || e.level == .warn
  | .error _ => false

def run (args : List String) : IO UInt32 := do
  let (places, before) ← survey args
  let (ending, after) := CommandLine.run args (Session.fresh before (← readClock))
  carryOut (Disk.changes places before after.disk)
  ((after.journal.filter (told args)).map (·.line)).forM IO.eprintln
  let output ← IO.getStdout
  output.putStr (Screen.render (← output.isTty) after.screen)
  ending.complaint.forM IO.eprintln
  return ending.exitCode.toUInt32

end StageGate.Main

def main (args : List String) : IO UInt32 := do
  try
    StageGate.Main.run args
  catch e =>
    IO.eprintln s!"Error: {e}"
    return 1
