import StageGate.Json.Printer
import StageGate.Json.Reader
import StageGate.Project.Basic
import StageGate.Project.Fault
import StageGate.Time.Timestamp

/-!
Projects as JSON data. The fields of an object are read in the order of their keys, so the first fault
in that order is the one reported; fields that are missing are reported after those that are wrong, in
the order in which they are written. Objects may also be given as lists of their fields.
-/

set_option autoImplicit false

namespace StageGate

/-! ### Writing -/

def Instant.toJson (t : Instant) : Json := .string t.write

namespace Entry

/-- Times that are not set are left out. -/
def toJson (e : Entry) : Json :=
  .object <| [("status", .string e.status.name)] ++
    (e.startedAt.toList.map fun t => ("started_at", t.toJson)) ++
    (e.completedAt.toList.map fun t => ("completed_at", t.toJson)) ++
    [("iterations", .int e.rounds.toNat)]

end Entry

namespace Project

def toJson (p : Project) : Json :=
  .object [
    ("name", .string p.name),
    ("description", .string p.description),
    ("version", .string p.version),
    ("mode", .string p.mode.name),
    ("current_stage", .string p.stage.name),
    ("created_at", p.createdAt.toJson),
    ("updated_at", p.updatedAt.toJson),
    ("stage_status", .object (Stage.order.map fun s => (s.name, (p.entries s).toJson))),
    ("clarity_score", .int p.score.toNat)]

def toText (p : Project) : String := p.toJson.pretty

end Project

/-! ### Reading -/

namespace Document

abbrev Read (α : Type) := Except ShapeFault α

def readText : Json → Read String
  | .string s => .ok s
  | v => .error (.wrongType v .text)

def readBelow (bound : Nat) (wanted : Wanted) : Json → Read Nat
  | .int n => if 0 ≤ n ∧ n < bound then .ok n.toNat else .error (.outOfRange n wanted)
  | v => .error (.wrongType v wanted)

def readByte (v : Json) : Read UInt8 := return (← readBelow 0x100 .byte v).toUInt8

def readCount (v : Json) : Read UInt32 := return (← readBelow 0x100000000 .count v).toUInt32

def readTimestamp : Json → Read Instant
  | .string s =>
    match Instant.read? s with
    | some t => .ok t
    | none => .error .badTimestamp
  | v => .error (.wrongType v .timestamp)

def readOptionalTimestamp : Json → Read (Option Instant)
  | .null => .ok none
  | v => some <$> readTimestamp v

def knownWord {α : Type} (ofName? : String → Option α) (known : List String) (word : String) :
    Read α :=
  match ofName? word with
  | some x => .ok x
  | none => .error (.unknownWord word known)

/-- A word of a fixed list, alone or as the only key of an object that holds nothing else. -/
def readWord {α : Type} (ofName? : String → Option α) (known : List String) : Json → Read α
  | .string word => knownWord ofName? known word
  | .object [(word, v)] => do
    let x ← knownWord ofName? known word
    match v with
    | .null => return x
    | v => throw (.wrongType v .nothing)
  | .object _ => .error .notSingleKey
  | v => .error (.wrongType v .word)

def readMode : Json → Read Mode := readWord Mode.ofName? (Mode.all.map (·.name))

def readStatus : Json → Read Status := readWord Status.ofName? (Status.all.map (·.name))

def knownStage (name : String) : Read Stage :=
  match Stage.ofName? name with
  | some s => .ok s
  | none => .error (.unknownStage name)

def readStage (v : Json) : Read Stage := do knownStage (← readText v)

def field? {α : Type} (read : Json → Read α) (name : String) (fields : List (String × Json)) :
    Read (Option α) :=
  match Json.field? name fields with
  | some v => some <$> read v
  | none => .ok none

def require {α : Type} (name : String) : Option α → Read α
  | some x => .ok x
  | none => .error (.missingField name)

def element {α : Type} (read : Json → Read α) (wanted : Wanted) (elements : List Json) (index : Nat) :
    Read α :=
  match elements[index]? with
  | some v => read v
  | none => .error (.missingElement index wanted)

/-- The element at a place of a list of fields whose end may be left off. -/
def element? {α : Type} (read : Json → Read α) (elements : List Json) (index : Nat) :
    Read (Option α) :=
  match elements[index]? with
  | some v => some <$> read v
  | none => .ok none

def requireNoMore (wanted : Wanted) (elements : List Json) : Read Unit :=
  if elements.length ≤ wanted.fieldCount then .ok ()
  else .error (.tooManyElements elements.length)

end Document

open Document

namespace Entry

def ofFields (fields : List (String × Json)) : Read Entry := do
  let completedAt ← field? readOptionalTimestamp "completed_at" fields
  let rounds ← field? readCount "iterations" fields
  let startedAt ← field? readOptionalTimestamp "started_at" fields
  let status ← field? readStatus "status" fields
  return {
    status := ← require "status" status
    startedAt := startedAt.join
    completedAt := completedAt.join
    rounds := rounds.getD 0 }

def ofElements (elements : List Json) : Read Entry := do
  let status ← element readStatus .entry elements 0
  let startedAt ← element? readOptionalTimestamp elements 1
  let completedAt ← element? readOptionalTimestamp elements 2
  let rounds ← element? readCount elements 3
  requireNoMore .entry elements
  return { status, startedAt := startedAt.join, completedAt := completedAt.join,
           rounds := rounds.getD 0 }

def ofJson : Json → Read Entry
  | .object fields => ofFields fields
  | .array elements => ofElements elements
  | v => .error (.wrongType v .entry)

def find? (s : Stage) (entries : List (Stage × Entry)) : Option Entry :=
  (entries.find? (·.1 = s)).map (·.2)

def tableOfFields (fields : List (String × Json)) : Read (Stage → Entry) := do
  let entries ← fields.mapM fun (name, v) => return (← knownStage name, ← ofJson v)
  Stage.order.forM fun s =>
    if (find? s entries).isSome then .ok () else .error (.missingEntry s)
  return fun s => (find? s entries).getD untouched

def tableOfJson : Json → Read (Stage → Entry)
  | .object fields => tableOfFields fields
  | v => .error (.wrongType v .table)

end Entry

namespace Project

def ofFields (fields : List (String × Json)) : Read Project := do
  let score ← field? readByte "clarity_score" fields
  let createdAt ← field? readTimestamp "created_at" fields
  let stage ← field? readStage "current_stage" fields
  let description ← field? readText "description" fields
  let mode ← field? readMode "mode" fields
  let name ← field? readText "name" fields
  let entries ← field? Entry.tableOfJson "stage_status" fields
  let updatedAt ← field? readTimestamp "updated_at" fields
  let version ← field? readText "version" fields
  return {
    name := ← require "name" name
    description := ← require "description" description
    version := ← require "version" version
    mode := ← require "mode" mode
    stage := ← require "current_stage" stage
    createdAt := ← require "created_at" createdAt
    updatedAt := ← require "updated_at" updatedAt
    entries := ← require "stage_status" entries
    score := score.getD 0 }

def ofElements (elements : List Json) : Read Project := do
  let name ← element readText .project elements 0
  let description ← element readText .project elements 1
  let version ← element readText .project elements 2
  let mode ← element readMode .project elements 3
  let stage ← element readStage .project elements 4
  let createdAt ← element readTimestamp .project elements 5
  let updatedAt ← element readTimestamp .project elements 6
  let entries ← element Entry.tableOfJson .project elements 7
  let score ← element? readByte elements 8
  requireNoMore .project elements
  return { name, description, version, mode, stage, createdAt, updatedAt, entries,
           score := score.getD 0 }

def ofJson : Json → Read Project
  | .object fields => ofFields fields
  | .array elements => ofElements elements
  | v => .error (.wrongType v .project)

/-- The name of the current stage in an object is checked before everything else. -/
def checkStage (v : Json) : Except DocumentFault Unit :=
  match v.get? "current_stage" with
  | some (.string name) =>
    if (Stage.ofName? name).isSome then .ok () else .error (.unknownStage name)
  | _ => .ok ()

def ofText (text : String) : Except DocumentFault Project :=
  match Json.parse? text with
  | none => .error .notJson
  | some v => do
    checkStage v
    (ofJson v).mapError .badShape

end Project

end StageGate
