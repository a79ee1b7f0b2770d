import StageGate.Decimal.Whole
import StageGate.Text.Front
import StageGate.Time.Date
import StageGate.Toml.Basic

/-!
TOML values that are written without quotes and brackets: booleans, numbers, dates and times. Each
reader takes the whole text of a value.
-/

set_option autoImplicit false

namespace StageGate.Toml

/-- Digits with single underscores between them; the underscores are left out. -/
def digitGroups? (isDigit : Char → Bool) : List Char → Option (List Char)
  | [] => none
  | [d] => if isDigit d then some [d] else none
  | d :: '_' :: e :: ds =>
    if isDigit d && isDigit e then (digitGroups? isDigit (e :: ds)).map (d :: ·) else none
  | d :: e :: ds => if isDigit d then (digitGroups? isDigit (e :: ds)).map (d :: ·) else none

def unsigned : List Char → Bool × List Char
  | '-' :: ds => (true, ds)
  | '+' :: ds => (false, ds)
  | ds => (false, ds)

def decimal? (cs : List Char) : Option (List Char) :=
  match digitGroups? Char.isDigit cs with
  | some ('0' :: _ :: _) => none
  | r => r

def isDigitBelow (base : Nat) (c : Char) : Bool :=
  match Text.hexValue? c with
  | some v => v < base
  | none => false

def based? (base : Nat) (cs : List Char) : Option Int :=
  (digitGroups? (isDigitBelow base) cs).map fun ds =>
    ((ds.foldl (fun n c => n * base + (Text.hexValue? c).getD 0) 0 : Nat) : Int)

/-- A whole number; it must fit in 64 bits with a sign. -/
def integer? (cs : List Char) : Option Int :=
  let n : Option Int :=
    match cs with
    | '0' :: 'x' :: ds => based? 16 ds
    | '0' :: 'o' :: ds => based? 8 ds
    | '0' :: 'b' :: ds => based? 2 ds
    | cs =>
      let (negative, ds) := unsigned cs
      (decimal? ds).map fun ds =>
        let n : Int := (Nat.ofDigitChars 10 ds 0 : Nat)
        if negative then -n else n
  n.filter Decimal.isInt64

def isExponentMark (c : Char) : Bool := c = 'e' || c = 'E'

def exponent? : List Char → Option Int
  | [] => some 0
  | _ :: cs =>
    let (negative, ds) := unsigned cs
    (digitGroups? Char.isDigit ds).map fun ds =>
      let n : Int := (Nat.ofDigitChars 10 ds 0 : Nat)
      if negative then -n else n

/-- The double nearest to a decimal; none if it is too large. Beyond the exponents at which every
decimal is too large or vanishes, no power is computed. -/
def nearest? (digits : List Char) (power : Int) : Option Decimal.Binary64 :=
  let n := Nat.ofDigitChars 10 digits 0
  let first := digits.length + power
  if n = 0 ∨ first < -400 then some .zero
  else if 400 + (digits.length : Int) < first then none
  else Decimal.Binary64.nearest? (n * Nat.pow 10 power.toNat) (Nat.pow 10 (-power).toNat)

def finite? (cs : List Char) : Option Real := do
  let (negative, cs) := unsigned cs
  let (mantissa, tail) := cs.span fun c => !isExponentMark c
  let (whole, fraction) := mantissa.span (· ≠ '.')
  if fraction = [] ∧ tail = [] then none
  let ws ← decimal? whole
  let fs ← if fraction = [] then some [] else digitGroups? Char.isDigit (fraction.drop 1)
  let e ← exponent? tail
  let x ← nearest? (ws ++ fs) (e - fs.length)
  return .finite ⟨negative, x⟩

def real? (cs : List Char) : Option Real :=
  match unsigned cs with
  | (negative, ['i', 'n', 'f']) => some (.infinite negative)
  | (_, ['n', 'a', 'n']) => some .notANumber
  | _ => finite? cs

def twoDigits? (a b : Char) : Option Nat :=
  if a.isDigit && b.isDigit then some (Nat.ofDigitChars 10 [a, b] 0) else none

def date? : List Char → Option (List Char)
  | y1 :: y2 :: y3 :: y4 :: '-' :: m1 :: m2 :: '-' :: d1 :: d2 :: rest => do
    let century ← twoDigits? y1 y2
    let year ← twoDigits? y3 y4
    let month ← twoDigits? m1 m2
    let day ← twoDigits? d1 d2
    if Time.IsDay ((century * 100 + year : Nat) : Int) month day then some rest else none
  | _ => none

/-- Seconds with a fraction behind the minutes; both may be left off. -/
def seconds? : List Char → Option (List Char)
  | ':' :: a :: b :: rest => do
    let s ← twoDigits? a b
    if 60 < s then none
    match rest with
    | '.' :: fs =>
      if (fs.takeWhile Char.isDigit).isEmpty then none else some (fs.dropWhile Char.isDigit)
    | rest => some rest
  | ':' :: _ => none
  | rest => some rest

def time? : List Char → Option (List Char)
  | a :: b :: ':' :: c :: d :: rest => do
    let hour ← twoDigits? a b
    let minute ← twoDigits? c d
    if hour < 24 ∧ minute < 60 then seconds? rest else none
  | _ => none

def offset? : List Char → Option (List Char)
  | sign :: a :: b :: ':' :: c :: d :: rest =>
    if sign = '+' ∨ sign = '-' then do
      let hour ← twoDigits? a b
      let minute ← twoDigits? c d
      if hour < 24 ∧ minute < 60 then some rest else none
    else none
  | [] => some []
  | c :: rest => if c = 'Z' ∨ c = 'z' then some rest else none

def isMoment (cs : List Char) : Bool :=
  match date? cs with
  | some [] => true
  | some (c :: rest) =>
    if c = 'T' ∨ c = 't' ∨ c = ' ' then ((time? rest).bind offset?) == some [] else false
  | none => time? cs == some []

def scalar? (cs : List Char) : Option Toml :=
  if cs = "true".toList then some (.boolean true)
  else if cs = "false".toList then some (.boolean false)
  else if isMoment cs then some (.moment (.ofList cs))
  else match integer? cs with
    | some n => some (.integer n)
    | none => (real? cs).map .real

end StageGate.Toml
