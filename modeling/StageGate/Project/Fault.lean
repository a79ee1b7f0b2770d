import StageGate.Json.Basic
import StageGate.Stage
import StageGate.Text.Quoted

/-!
What can be wrong with the text of a project file: it is no JSON, it names a stage that does not exist,
or its data does not have the shape of a project.
-/

set_option autoImplicit false

namespace StageGate

/-- What a place in a project file must hold. -/
inductive Wanted where
  | text | word | byte | count | timestamp | nothing | table | project | entry
  deriving DecidableEq, Repr

namespace Wanted

def describe : Wanted → String
  | text => "a string"
  | word => "string or map"
  | byte => "u8"
  | count => "u32"
  | timestamp => "an RFC 3339 formatted date and time string"
  | nothing => "unit"
  | table => "a map"
  | project => "struct ProjectState"
  | entry => "struct StageState"

/-- The fields of what can also be written as a list of its fields. -/
def fieldCount : Wanted → Nat
  | project => 9
  | entry => 4
  | _ => 0

end Wanted

def Json.describe : Json → String
  | null => "null"
  | bool b => if b then "boolean `true`" else "boolean `false`"
  | int n => s!"integer `{n}`"
  | real x => "floating point `" ++ realStyle.write x ++ "`"
  | string s => "string " ++ Text.quote s
  | array _ => "sequence"
  | object _ => "map"

inductive ShapeFault where
  | wrongType (found : Json) (wanted : Wanted)
  | outOfRange (n : Int) (wanted : Wanted)
  | unknownWord (word : String) (known : List String)
  | notSingleKey
  | missingField (name : String)
  | missingElement (index : Nat) (wanted : Wanted)
  | tooManyElements (length : Nat)
  | badTimestamp
  | unknownStage (name : String)
  | missingEntry (stage : Stage)

namespace ShapeFault

def message : ShapeFault → String
  | wrongType found wanted => s!"invalid type: {found.describe}, expected {wanted.describe}"
  | outOfRange n wanted => s!"invalid value: integer `{n}`, expected {wanted.describe}"
  | unknownWord word known => s!"unknown variant `{word}`, expected {Text.describeWords known}"
  | notSingleKey => "invalid value: map, expected map with a single key"
  | missingField name => s!"missing field `{name}`"
  | missingElement index wanted =>
    s!"invalid length {index}, expected {wanted.describe} with {wanted.fieldCount} elements"
  | tooManyElements length => s!"invalid length {length}, expected fewer elements in array"
  | badTimestamp => "invalid timestamp"
  | unknownStage name => "unknown stage: " ++ name
  | missingEntry stage => s!"stage_status is missing an entry for '{stage.name}'"

end ShapeFault

inductive DocumentFault where
  | notJson
  | unknownStage (name : String)
  | badShape (fault : ShapeFault)

/-- The messages from the outermost to the innermost. -/
def DocumentFault.messages : DocumentFault → List String
  | notJson => ["Invalid JSON", "invalid json"]
  | unknownStage name => ["unknown stage: " ++ name]
  | badShape fault => [fault.message]

end StageGate
