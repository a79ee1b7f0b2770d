import StageGate.Time.Date

/-!
Points of time in UTC, to the nanosecond. A leap second is the second after the fifty-ninth of a
minute: it is kept as that second with a thousand million nanoseconds or more.
-/

set_option autoImplicit false

namespace StageGate

namespace Time

def nanosPerSecond : Nat := 1000000000

def secondsPerDay : Nat := 86400

end Time

open Time

/-- Leap seconds off the end of a minute are not represented: no clock and no timestamp gives one. -/
structure Instant where
  date : Date
  second : Nat
  nano : Nat
  second_lt : second < secondsPerDay
  nano_lt : nano < 2 * nanosPerSecond
  leap_at_end : nanosPerSecond ≤ nano → second % 60 = 59
  deriving DecidableEq, Repr

namespace Instant

def of? (date : Date) (second nano : Nat) : Option Instant :=
  if h : second < secondsPerDay ∧ nano < 2 * nanosPerSecond ∧
      (nanosPerSecond ≤ nano → second % 60 = 59) then
    some ⟨date, second, nano, h.1, h.2.1, h.2.2⟩
  else none

@[simp] theorem of?_self (t : Instant) : of? t.date t.second t.nano = some t := by
  rw [of?, dif_pos ⟨t.second_lt, t.nano_lt, t.leap_at_end⟩]

/-- The instant so many seconds after midnight of a date; they may be negative or more than a day. -/
def ofSeconds? (date : Date) (second : Int) (nano : Nat) : Option Instant := do
  of? (← date.addDays? (second / secondsPerDay)) (second % secondsPerDay).toNat nano

/-- The instant that lies a span of nanoseconds later. A leap second is left as if it were the second
before it when time goes on, and as if it were the second after it when time goes back; shorter spans
stay within it. -/
def add? (t : Instant) (span : Int) : Option Instant :=
  let whole := span.tdiv nanosPerSecond
  let part := span.tmod nanosPerSecond
  let moved (second nano : Int) : Option Instant :=
    let n := nano + part
    ofSeconds? t.date (second + whole + n / nanosPerSecond) (n % nanosPerSecond).toNat
  if t.nano < nanosPerSecond then moved t.second t.nano
  else if 0 < whole ∨ (0 < part ∧ 2 * nanosPerSecond ≤ t.nano + part) then
    moved t.second (t.nano - nanosPerSecond)
  else if whole < 0 then moved (t.second + 1) (t.nano - nanosPerSecond)
  else of? t.date t.second (t.nano + part).toNat

end Instant

end StageGate
