import StageGate.Mode
import StageGate.Text.Quoted
import StageGate.Toml.Basic

/-!
What can be wrong with the text of a settings file: it is no TOML, it has a key that settings do not
know, or a value does not have the shape that its key wants.
-/

set_option autoImplicit false

namespace StageGate

inductive SettingsFault where
  | notToml
  | unknownKey (key : String)
  | notText (found : Toml)
  | unknownMode (word : String)
  /-- A mode is a word or a table with the word as its key. -/
  | notAWord
  | noWord
  | manyWords
  /-- What stands under the word must be empty. -/
  | notEmpty (found : Toml)

namespace SettingsFault

def folderKey : String := "state_dir"

def modeKey : String := "default_mode"

def message : SettingsFault → String
  | notToml => "invalid toml"
  | unknownKey key => s!"unknown field `{key}`, expected {Text.describeWords [folderKey, modeKey]}"
  | notText found => s!"invalid type: {found.describe}, expected a string"
  | unknownMode word =>
    s!"unknown variant `{word}`, expected {Text.describeWords (Mode.all.map (·.name))}"
  | notAWord => "wanted string or table"
  | noWord => "wanted exactly 1 element, found 0 elements"
  | manyWords => "wanted exactly 1 element, more than 1 element"
  | notEmpty (.array _) => "expected empty array"
  | notEmpty (.table _) => "expected empty table"
  | notEmpty found => s!"expected table, found {found.typeName}"

end SettingsFault

end StageGate
