import StageGate.Toml.Basic

/-!
Putting a TOML document together from its statements. A table can be described in several places only as
long as no two of them state it: by a header of its own, by a longer header that implies it, or by
dotted keys. Values, and the tables written in braces, can not be added to.
-/

set_option autoImplicit false

namespace StageGate.Toml

inductive Origin where
  /-- A header names it. -/
  | stated
  /-- A longer header leads through it. -/
  | implied
  /-- A dotted key leads through it. -/
  | dotted
  deriving DecidableEq, Repr

inductive Part where
  | value (v : Toml)
  | table (origin : Origin) (parts : List (String × Part))
  | tables (elements : List (List (String × Part)))

abbrev Parts := List (String × Part)

inductive Statement where
  | pair (keys : List String) (value : Toml)
  | header (keys : List String)
  | arrayHeader (keys : List String)

namespace Parts

def find? (key : String) (ps : Parts) : Option Part := (List.find? (·.1 = key) ps).map (·.2)

def set (key : String) (part : Part) (ps : Parts) : Parts :=
  if ps.any (·.1 = key) then List.map (fun (k, p) => if k = key then (k, part) else (k, p)) ps
  else (key, part) :: ps

def changeLast (change : Parts → Option Parts) (elements : List Parts) : Option (List Parts) :=
  match elements.getLast? with
  | some last => (change last).map fun ps => elements.dropLast ++ [ps]
  | none => none

/-- Follows the keys of a header and changes the table to which they lead. -/
def changeAt (change : Parts → Option Parts) : List String → Parts → Option Parts
  | [], ps => change ps
  | k :: ks, ps =>
    match find? k ps with
    | none => (changeAt change ks []).map fun sub => set k (.table .implied sub) ps
    | some (.table origin sub) =>
      (changeAt change ks sub).map fun sub => set k (.table origin sub) ps
    | some (.tables elements) =>
      (changeLast (changeAt change ks) elements).map fun es => set k (.tables es) ps
    | some (.value _) => none

def insert (v : Toml) : List String → Parts → Option Parts
  | [], _ => none
  | [k], ps => if (find? k ps).isSome then none else some (set k (.value v) ps)
  | k :: ks, ps =>
    match find? k ps with
    | none => (insert v ks []).map fun sub => set k (.table .dotted sub) ps
    | some (.table origin sub) =>
      if origin = .stated then none
      else (insert v ks sub).map fun sub => set k (.table origin sub) ps
    | some _ => none

def state (key : String) (ps : Parts) : Option Parts :=
  match find? key ps with
  | none => some (set key (.table .stated []) ps)
  | some (.table .implied sub) => some (set key (.table .stated sub) ps)
  | some _ => none

def append (key : String) (ps : Parts) : Option Parts :=
  match find? key ps with
  | none => some (set key (.tables [[]]) ps)
  | some (.tables elements) => some (set key (.tables (elements ++ [[]])) ps)
  | some _ => none

end Parts

mutual

def Part.toToml : Part → Toml
  | .value v => v
  | .table _ parts => .table (tableFields parts)
  | .tables elements => .array (tableList elements)

def tableFields : List (String × Part) → List (String × Toml)
  | [] => []
  | (k, p) :: ps => insertField k p.toToml (tableFields ps)

def tableList : List (List (String × Part)) → List Toml
  | [] => []
  | ps :: rest => .table (tableFields ps) :: tableList rest

end

/-- A document under construction: what it holds, and the keys of the table whose lines are read. -/
structure Draft where
  parts : Parts
  here : List String

def Draft.add (d : Draft) : Statement → Option Draft
  | .pair keys v => (Parts.changeAt (Parts.insert v keys) d.here d.parts).map ({ d with parts := · })
  | .header keys =>
    match keys.getLast? with
    | none => none
    | some k => (Parts.changeAt (Parts.state k) keys.dropLast d.parts).map (⟨·, keys⟩)
  | .arrayHeader keys =>
    match keys.getLast? with
    | none => none
    | some k => (Parts.changeAt (Parts.append k) keys.dropLast d.parts).map (⟨·, keys⟩)

/-- The table that statements describe; none where they contradict each other. -/
def ofStatements (statements : List Statement) : Option (List (String × Toml)) :=
  (statements.foldlM Draft.add ⟨[], []⟩).map fun d => tableFields d.parts

def ofPairs (pairs : List (List String × Toml)) : Option (List (String × Toml)) :=
  ofStatements (pairs.map fun (keys, v) => .pair keys v)

end StageGate.Toml
