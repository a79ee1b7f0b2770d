import StageGate.Text.Blank
import StageGate.Time.Instant

/-!
Timestamps as text. They are written in the profile of RFC 3339, with the fewest of no, three, six or
nine digits of a second that are exact, and with a sign before years of more than four digits. The
reader also takes what people write: blanks between the parts, single digits, and any offset from UTC.
-/

set_option autoImplicit false

namespace StageGate

namespace Time

def padded (width n : Nat) : List Char :=
  let ds := Nat.toDigits 10 n
  List.replicate (width - ds.length) '0' ++ ds

def writeYear (year : Int) : List Char :=
  if 0 ≤ year ∧ year ≤ 9999 then padded 4 year.toNat
  else (if year < 0 then '-' else '+') :: padded 4 year.natAbs

def writeFraction (nano : Nat) : List Char :=
  if nano = 0 then []
  else if nano % 1000000 = 0 then '.' :: padded 3 (nano / 1000000)
  else if nano % 1000 = 0 then '.' :: padded 6 (nano / 1000)
  else '.' :: padded 9 nano

end Time

open Time

namespace Instant

def writeLocal (t : Instant) : List Char :=
  let leap := t.nano / nanosPerSecond
  writeYear t.date.year ++ '-' :: padded 2 t.date.month ++ '-' :: padded 2 t.date.day ++
    'T' :: padded 2 (t.second / 3600) ++ ':' :: padded 2 (t.second / 60 % 60) ++
    ':' :: padded 2 (t.second % 60 + leap) ++ writeFraction (t.nano % nanosPerSecond)

def write (t : Instant) : String := .ofList (t.writeLocal ++ ['Z'])

def writeWithOffset (t : Instant) : String := .ofList (t.writeLocal ++ ['+', '0', '0', ':', '0', '0'])

end Instant

namespace Time

def number? (atMost : Nat) (cs : List Char) : Option (Nat × List Char) :=
  match (cs.take atMost).takeWhile Char.isDigit with
  | [] => none
  | ds => some (Nat.ofDigitChars 10 ds 0, cs.drop ds.length)

/-- Four digits at most, or any number of them behind a sign. -/
def year? (cs : List Char) : Option (Int × List Char) :=
  match Text.trimStart cs with
  | '-' :: ds => (number? ds.length ds).map fun (n, rest) => (-(n : Int), rest)
  | '+' :: ds => (number? ds.length ds).map fun (n, rest) => ((n : Int), rest)
  | ds => (number? 4 ds).map fun (n, rest) => ((n : Int), rest)

def twoDigits? (cs : List Char) : Option (Nat × List Char) := number? 2 (Text.trimStart cs)

def mark? (mark : Char) (cs : List Char) : Option (List Char) :=
  match Text.trimStart cs with
  | c :: rest => if c = mark then some rest else none
  | [] => none

/-- What stands between the date and the time of day; of the blanks only the space does. -/
def divider? : List Char → Option (List Char)
  | c :: rest => if c = 'T' ∨ c = 't' ∨ c = ' ' then some rest else none
  | [] => none

/-- The nanoseconds that a fraction writes; digits after the ninth do not count. -/
def fraction? : List Char → Option (Nat × List Char)
  | '.' :: cs =>
    match cs.takeWhile Char.isDigit with
    | [] => none
    | ds =>
      let first := ds.take 9
      some (Nat.ofDigitChars 10 first 0 * Nat.pow 10 (9 - first.length), cs.drop ds.length)
  | cs => some (0, cs)

def isOffsetFiller (c : Char) : Bool := c = ':' || Text.isBlank c

/-- Hours and minutes of an offset, in seconds; its hours are those of a day. -/
def offsetDigits? : List Char → Option (Int × List Char)
  | a :: b :: cs =>
    match cs.dropWhile isOffsetFiller with
    | c :: d :: rest =>
      if [a, b, c, d].all Char.isDigit then
        let hours := Nat.ofDigitChars 10 [a, b] 0
        let minutes := Nat.ofDigitChars 10 [c, d] 0
        if hours < 24 ∧ minutes < 60 then some ((hours * 3600 + minutes * 60 : Nat), rest) else none
      else none
    | _ => none
  | _ => none

def offset? (cs : List Char) : Option (Int × List Char) :=
  match Text.trimStart cs with
  | 'Z' :: rest => some (0, rest)
  | 'z' :: rest => some (0, rest)
  | '+' :: rest => offsetDigits? rest
  | '-' :: rest => (offsetDigits? rest).map fun (n, rest) => (-n, rest)
  | '−' :: rest => (offsetDigits? rest).map fun (n, rest) => (-n, rest)
  | u :: t :: c :: rest =>
    if u.toUpper = 'U' ∧ t.toUpper = 'T' ∧ c.toUpper = 'C' then some (0, rest) else none
  | _ => none

/-- The sixtieth second of a minute is a leap second. -/
def instantOf? (date : Date) (hour minute second nano : Nat) (offset : Int) : Option Instant :=
  if hour < 24 ∧ minute < 60 ∧ second ≤ 60 then
    let shown : Int := (hour * 3600 + minute * 60 + min second 59 : Nat)
    Instant.ofSeconds? date (shown - offset) (nano + if second = 60 then nanosPerSecond else 0)
  else none

def instant? (cs : List Char) : Option (Instant × List Char) := do
  let (year, cs) ← year? cs
  let (month, cs) ← twoDigits? (← mark? '-' cs)
  let (day, cs) ← twoDigits? (← mark? '-' cs)
  let (hour, cs) ← twoDigits? (← divider? cs)
  let (minute, cs) ← twoDigits? (← mark? ':' cs)
  let (second, cs) ← twoDigits? (← mark? ':' cs)
  let (nano, cs) ← fraction? cs
  let (offset, cs) ← offset? cs
  let date ← Date.of? year month day
  return (← instantOf? date hour minute second nano offset, cs)

end Time

def Instant.read? (text : String) : Option Instant :=
  match instant? text.toList with
  | some (t, rest) => if rest.all Text.isBlank then some t else none
  | none => none

end StageGate
