import StageGate.Layout
import StageGate.Settings.Fault
import StageGate.Toml.Reader

/-!
Settings of a project folder. Each key that is absent leaves its setting as it is without a file; a key
that settings do not know is a fault. Keys are looked at in their order, and the first fault counts.
-/

set_option autoImplicit false

namespace StageGate

structure Settings where
  /-- The folder below the root that holds the project. -/
  folder : String
  /-- The mode of a new project for which none is asked. -/
  mode : Mode
  deriving DecidableEq, Repr

namespace Settings

def standard : Settings := ⟨Layout.standardFolder, Mode.standard⟩

def readText : Toml → Except SettingsFault String
  | .string s => .ok s
  | v => .error (.notText v)

def knownMode (word : String) : Except SettingsFault Mode :=
  match Mode.ofName? word with
  | some m => .ok m
  | none => .error (.unknownMode word)

def requireEmpty : Toml → Except SettingsFault Unit
  | .array [] => .ok ()
  | .table [] => .ok ()
  | v => .error (.notEmpty v)

def readMode : Toml → Except SettingsFault Mode
  | .string word => knownMode word
  | .table [] => .error .noWord
  | .table [(word, v)] => do
    let m ← knownMode word
    requireEmpty v
    return m
  | .table _ => .error .manyWords
  | _ => .error .notAWord

def take (s : Settings) (field : String × Toml) : Except SettingsFault Settings := do
  if field.1 = SettingsFault.folderKey then return { s with folder := ← readText field.2 }
  else if field.1 = SettingsFault.modeKey then return { s with mode := ← readMode field.2 }
  else throw (.unknownKey field.1)

def ofTable (fields : List (String × Toml)) : Except SettingsFault Settings :=
  fields.foldlM take standard

def ofText (text : String) : Except SettingsFault Settings :=
  match Toml.parse? text with
  | some fields => ofTable fields
  | none => .error .notToml

end Settings

end StageGate
