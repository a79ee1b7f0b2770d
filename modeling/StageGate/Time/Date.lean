/-!
Days of the Gregorian calendar, extended before its introduction and to years with a sign. A date is
kept as year, month and day; `Date.dayNumber` counts days so that dates can be moved.
-/

set_option autoImplicit false

namespace StageGate.Time

def isLeapYear (year : Int) : Bool := year % 4 == 0 && (year % 100 != 0 || year % 400 == 0)

def daysInMonth (year : Int) : Nat → Nat
  | 1 | 3 | 5 | 7 | 8 | 10 | 12 => 31
  | 4 | 6 | 9 | 11 => 30
  | 2 => if isLeapYear year then 29 else 28
  | _ => 0

def leastYear : Int := -262143

def greatestYear : Int := 262142

/-- The day exists, and its year is one that dates can hold. -/
def IsDay (year : Int) (month day : Nat) : Prop :=
  leastYear ≤ year ∧ year ≤ greatestYear ∧ 1 ≤ day ∧ day ≤ daysInMonth year month

instance (year : Int) (month day : Nat) : Decidable (IsDay year month day) :=
  inferInstanceAs (Decidable (_ ∧ _ ∧ _ ∧ _))

structure Date where
  year : Int
  month : Nat
  day : Nat
  isDay : IsDay year month day
  deriving DecidableEq, Repr

namespace Date

def of? (year : Int) (month day : Nat) : Option Date :=
  if h : IsDay year month day then some ⟨year, month, day, h⟩ else none

@[simp] theorem of?_self (d : Date) : of? d.year d.month d.day = some d := by
  simp [of?, d.isDay]

/-- Days since the first of March of the year zero. A year is counted from March on, so that its leap
day comes last; four hundred years have 146097 days. -/
def dayNumber (d : Date) : Int :=
  let year := if d.month ≤ 2 then d.year - 1 else d.year
  let inCycle := year % 400
  let month := (d.month + 9) % 12
  let inYear : Int := (153 * month + 2) / 5 + d.day - 1
  year / 400 * 146097 + (inCycle * 365 + inCycle / 4 - inCycle / 100 + inYear)

def ofDayNumber? (n : Int) : Option Date :=
  let inCycle := n % 146097
  let year := (inCycle - inCycle / 1460 + inCycle / 36524 - inCycle / 146096) / 365
  let inYear := inCycle - (365 * year + year / 4 - year / 100)
  let month := (5 * inYear + 2) / 153
  let day := inYear - (153 * month + 2) / 5 + 1
  let month := if month < 10 then month + 3 else month - 9
  let year := n / 146097 * 400 + year
  of? (if month ≤ 2 then year + 1 else year) month.toNat day.toNat

def addDays? (d : Date) (n : Int) : Option Date :=
  if n = 0 then some d else ofDayNumber? (d.dayNumber + n)

end Date

end StageGate.Time
