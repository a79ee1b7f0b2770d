import StageGate.Decimal.Shortest

/-!
JSON values. A number is a whole number where it is written as one and fits in 64 bits, and otherwise a
double. The fields of an object are kept in the order of their keys, each key once.
-/

set_option autoImplicit false

namespace StageGate

inductive Json where
  | null
  | bool (b : Bool)
  | int (n : Int)
  | real (x : Decimal.Double)
  | string (s : String)
  | array (xs : List Json)
  | object (fields : List (String × Json))
  deriving Repr, Inhabited

namespace Json

/-- Puts a field into its place in the order of keys; a field with the same key gives way. -/
def insertField (key : String) (value : Json) : List (String × Json) → List (String × Json)
  | [] => [(key, value)]
  | (k, v) :: rest =>
    if key = k then (key, value) :: rest
    else if key < k then (key, value) :: (k, v) :: rest
    else (k, v) :: insertField key value rest

/-- Fields as they were written, put into order; of several with one key the last one stays. -/
def ofFields (fields : List (String × Json)) : Json :=
  .object (fields.foldl (fun acc (k, v) => insertField k v acc) [])

def field? (key : String) (fields : List (String × Json)) : Option Json :=
  (fields.find? (·.1 = key)).map (·.2)

@[simp] theorem field?_nil (key : String) : field? key [] = none := rfl

theorem field?_cons (key k : String) (v : Json) (fs : List (String × Json)) :
    field? key ((k, v) :: fs) = if k = key then some v else field? key fs := by
  by_cases h : k = key <;> simp [field?, h]

def get? (key : String) : Json → Option Json
  | object fields => field? key fields
  | _ => none

/-- Doubles in messages: positional from a hundred-thousandth up to sixteen digits before the
point. -/
def realStyle : Decimal.Style := ⟨-5, 15⟩

end Json

end StageGate
