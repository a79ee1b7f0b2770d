import Mathlib.Data.Prod.Lex
import StageGate.Time.Instant

/-!
The order of time. Dates are ordered by year, month and day, instants by date, second of the day and
nanosecond: a leap second comes after all of the second whose number it shares, and before the next one.
Later dates have greater day numbers.
-/

set_option autoImplicit false

namespace StageGate

namespace Time.Date

def key (d : Date) : Int ×ₗ Nat ×ₗ Nat := toLex (d.year, toLex (d.month, d.day))

theorem key_injective : Function.Injective key := by
  intro d e h
  cases d
  cases e
  simpa [key] using h

instance : LinearOrder Date := LinearOrder.lift' key key_injective

theorem lt_iff {d e : Date} : d < e ↔
    d.year < e.year ∨ d.year = e.year ∧ (d.month < e.month ∨ d.month = e.month ∧ d.day < e.day) := by
  refine Prod.Lex.lt_iff.trans ?_
  simp [key, Prod.Lex.toLex_lt_toLex]

theorem month_mem (d : Date) : 1 ≤ d.month ∧ d.month ≤ 12 := by
  have h := d.isDay.2.2
  unfold daysInMonth at h
  split at h <;> omega

/-! ### Day numbers -/

/-- The year in which the last first of March lies. -/
def marchYear (d : Date) : Int := if d.month ≤ 2 then d.year - 1 else d.year

def marchMonth (d : Date) : Nat := (d.month + 9) % 12

def firstOfMarch (year : Int) : Int := 365 * year + year / 4 - year / 100 + year / 400

/-- The days from the first of March to the first of the month that comes so many months later. -/
def firstOfMonth (month : Nat) : Nat := (153 * month + 2) / 5

theorem dayNumber_eq (d : Date) :
    d.dayNumber = firstOfMarch d.marchYear + firstOfMonth d.marchMonth + d.day - 1 := by
  unfold dayNumber firstOfMarch marchYear firstOfMonth marchMonth
  dsimp only
  omega

theorem firstOfMarch_mono {y z : Int} (h : y ≤ z) : firstOfMarch y ≤ firstOfMarch z := by
  unfold firstOfMarch
  omega

theorem firstOfMonth_mono : Monotone firstOfMonth := by
  intro m n h
  unfold firstOfMonth
  omega

theorem firstOfMarch_succ (year : Int) :
    firstOfMarch (year + 1) = firstOfMarch year + if isLeapYear (year + 1) then 366 else 365 := by
  have hleap : isLeapYear (year + 1) = true ↔
      (year + 1) % 4 = 0 ∧ ((year + 1) % 100 ≠ 0 ∨ (year + 1) % 400 = 0) := by simp [isLeapYear]
  unfold firstOfMarch
  split
  · next h =>
    rw [hleap] at h
    omega
  · next h =>
    rw [hleap] at h
    omega

/-- A month ends before the next one begins; only February is the last of its year. -/
theorem day_le_of_marchMonth {d : Date} (hm : d.marchMonth < 11) :
    firstOfMonth d.marchMonth + d.day ≤ firstOfMonth (d.marchMonth + 1) := by
  have h := d.isDay.2.2
  unfold marchMonth at hm
  unfold marchMonth firstOfMonth
  unfold daysInMonth at h
  split at h <;> omega

theorem dayNumber_lt_firstOfMarch (d : Date) : d.dayNumber < firstOfMarch (d.marchYear + 1) := by
  have hlast : firstOfMonth 11 = 337 := rfl
  rw [firstOfMarch_succ, dayNumber_eq]
  by_cases hm : d.marchMonth < 11
  · have hday := day_le_of_marchMonth hm
    have hle : firstOfMonth (d.marchMonth + 1) ≤ firstOfMonth 11 := firstOfMonth_mono hm
    split <;> omega
  · have hmonth : d.month = 2 := by
      have hmem := d.month_mem
      unfold marchMonth at hm
      omega
    have hmarch : d.marchMonth = 11 := by rw [marchMonth, hmonth]
    have hyear : d.marchYear + 1 = d.year := by simp [marchYear, hmonth]
    have hday : d.day ≤ if isLeapYear d.year then 29 else 28 := by
      have hday := d.isDay.2.2.2
      rw [hmonth] at hday
      exact hday
    rw [hyear, hmarch]
    split at hday <;> simp only [*, if_true] <;> omega

theorem firstOfMarch_le_dayNumber (d : Date) : firstOfMarch d.marchYear ≤ d.dayNumber := by
  have hday := d.isDay.2.2.1
  rw [dayNumber_eq]
  omega

/-- Counted from March on, a later date is in a later year, or in a later month of the same year. -/
theorem march_of_lt {d e : Date} (h : d < e) : d.marchYear < e.marchYear ∨
    d.marchYear = e.marchYear ∧
      (d.marchMonth < e.marchMonth ∨ d.marchMonth = e.marchMonth ∧ d.day < e.day) := by
  have hd := d.month_mem
  have he := e.month_mem
  rw [lt_iff] at h
  unfold marchYear marchMonth
  split <;> split <;> omega

theorem dayNumber_lt_of_lt {d e : Date} (h : d < e) : d.dayNumber < e.dayNumber := by
  rcases march_of_lt h with hy | ⟨hy, hm⟩
  · calc d.dayNumber < firstOfMarch (d.marchYear + 1) := dayNumber_lt_firstOfMarch d
      _ ≤ firstOfMarch e.marchYear := firstOfMarch_mono hy
      _ ≤ e.dayNumber := firstOfMarch_le_dayNumber e
  · have he := e.isDay.2.2.1
    rw [dayNumber_eq, dayNumber_eq, hy]
    rcases hm with hm | ⟨hm, hlt⟩
    · have hmarch : e.marchMonth < 12 := Nat.mod_lt _ (by decide)
      have hday := day_le_of_marchMonth (d := d) (by omega)
      have hle : firstOfMonth (d.marchMonth + 1) ≤ firstOfMonth e.marchMonth := firstOfMonth_mono hm
      omega
    · rw [hm]
      omega

end Time.Date

namespace Instant

def key (t : Instant) : Time.Date ×ₗ Nat ×ₗ Nat := toLex (t.date, toLex (t.second, t.nano))

theorem key_injective : Function.Injective key := by
  intro t u h
  cases t
  cases u
  simpa [key] using h

instance : LinearOrder Instant := LinearOrder.lift' key key_injective

end Instant

end StageGate
