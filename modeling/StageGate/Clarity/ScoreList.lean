import StageGate.Clarity.Dimension
import StageGate.Decimal.Whole
import StageGate.Text.Blank
import StageGate.Text.Split

/-!
Score lists: `name:score` pairs between commas, as users type them. Every segment of the list is judged
by itself (`Reading.ofSegment`): it scores one dimension, or it is passed over with a warning, or it is
blank. The last score of a dimension counts, and dimensions that the list does not score keep theirs.
-/

set_option autoImplicit false

namespace StageGate.Clarity

/-- The whole number at the front of a text, after blanks and with an optional sign; what follows
its digits does not count. A number too large for 64 bits is none. -/
def leadingInteger? (cs : List Char) : Option Int :=
  let signed : Option Int :=
    match Text.trimStart cs with
    | '-' :: ds => (Decimal.leadingDigits? ds).map fun n => -(n : Int)
    | '+' :: ds => (Decimal.leadingDigits? ds).map fun n => (n : Int)
    | ds => (Decimal.leadingDigits? ds).map fun n => (n : Int)
  signed.filter Decimal.isInt64

def clampScore (n : Int) : UInt8 := (max 0 (min n maxScore.toNat)).toNat.toUInt8

/-- Why a segment of a score list was passed over. -/
inductive Warning where
  | noColon (segment : String)
  | notANumber (segment : String)
  | unknownDimension (name : String)
  deriving DecidableEq, Repr

inductive Reading where
  | blank
  | scored (dimension : Dimension) (score : UInt8)
  | ignored (warning : Warning)
  deriving DecidableEq, Repr

namespace Reading

/-- A segment must have a colon, then a number after it, and only then a known name before it. -/
def ofTrimmed (cs : List Char) : Reading :=
  if cs = [] then blank
  else match Text.splitFirst ':' cs with
    | none => ignored (.noColon (.ofList cs))
    | some (left, right) =>
      match leadingInteger? right with
      | none => ignored (.notANumber (.ofList cs))
      | some n =>
        let name := String.ofList (Text.trim left)
        match Dimension.ofName? name with
        | none => ignored (.unknownDimension name)
        | some d => scored d (clampScore n)

def ofSegment (cs : List Char) : Reading := ofTrimmed (Text.trim cs)

def score? (d : Dimension) : Reading → Option UInt8
  | scored d' n => if d' = d then some n else none
  | _ => none

def warning? : Reading → Option Warning
  | ignored w => some w
  | _ => none

end Reading

def readings (cs : List Char) : List Reading := (Text.split ',' cs).map Reading.ofSegment

/-- The score that the list gives to a dimension in the end: the last one. -/
def lastScore? (d : Dimension) (rs : List Reading) : Option UInt8 :=
  (rs.filterMap (·.score? d)).getLast?

def Rating.withReadings (read : List Reading) (r : Rating) : Rating :=
  match lastScore? r.dimension read with
  | some n => { r with score := n }
  | none => r

structure Scored where
  ratings : List Rating
  /-- The ratings that the list scored. -/
  applied : Nat
  warnings : List Warning
  deriving DecidableEq, Repr

def applyScores (list : String) (rs : List Rating) : Scored :=
  let read := readings list.toList
  { ratings := rs.map (·.withReadings read)
    applied := rs.countP fun r => (lastScore? r.dimension read).isSome
    warnings := read.filterMap (·.warning?) }

theorem readings_append (a b : List Char) :
    readings (a ++ ',' :: b) = readings a ++ readings b := by
  simp [readings, Text.split_append]

end StageGate.Clarity
