import StageGate.Decimal.Shortest
import StageGate.Text.Quoted

/-!
TOML values. The fields of a table are kept in the order of their keys. Of dates and times only the
text is kept.
-/

set_option autoImplicit false

namespace StageGate

namespace Toml

inductive Real where
  | finite (x : Decimal.Double)
  | infinite (negative : Bool)
  | notANumber
  deriving DecidableEq, Repr

/-- Doubles in messages: always positional. -/
def realStyle : Decimal.Style := ⟨-400, 400⟩

def Real.describe : Real → String
  | finite x => realStyle.write x
  | infinite true => "-inf"
  | infinite false => "inf"
  | notANumber => "NaN"

end Toml

inductive Toml where
  | string (s : String)
  | integer (n : Int)
  | real (x : Toml.Real)
  | boolean (b : Bool)
  | moment (text : String)
  | array (xs : List Toml)
  | table (fields : List (String × Toml))
  deriving Repr, Inhabited

namespace Toml

def describe : Toml → String
  | string s => "string " ++ Text.quote s
  | integer n => s!"integer `{n}`"
  | real x => "floating point `" ++ x.describe ++ "`"
  | boolean b => if b then "boolean `true`" else "boolean `false`"
  | array _ => "sequence"
  | moment _ | table _ => "map"

def typeName : Toml → String
  | string _ => "string"
  | integer _ => "integer"
  | real _ => "float"
  | boolean _ => "boolean"
  | moment _ => "datetime"
  | array _ => "array"
  | table _ => "table"

def insertField (key : String) (value : Toml) : List (String × Toml) → List (String × Toml)
  | [] => [(key, value)]
  | (k, v) :: rest =>
    if key < k then (key, value) :: (k, v) :: rest else (k, v) :: insertField key value rest

end Toml

end StageGate
