import Mathlib.Data.List.TakeDrop
import StageGate.Text.Blank

/-!
Runs of characters at the front of a text, and the digits of numbers as such runs. A run is read off
whole when what follows cannot go on with it.
-/

set_option autoImplicit false

namespace StageGate.Text

/-- A text that does not go on with a run of characters of this kind. -/
def Stops (p : Char → Bool) (cs : List Char) : Prop := ∀ c ∈ cs.head?, p c = false

@[simp] theorem stops_nil (p : Char → Bool) : Stops p [] := by simp [Stops]

@[simp] theorem stops_cons (p : Char → Bool) (c : Char) (cs : List Char) :
    Stops p (c :: cs) ↔ p c = false := by simp [Stops]

theorem Stops.takeWhile_eq {p : Char → Bool} {cs : List Char} (h : Stops p cs) :
    cs.takeWhile p = [] := by
  cases cs with
  | nil => rfl
  | cons c cs =>
    have hc := (stops_cons p c cs).1 h
    simp [hc]

theorem Stops.dropWhile_eq {p : Char → Bool} {cs : List Char} (h : Stops p cs) :
    cs.dropWhile p = cs := by
  cases cs with
  | nil => rfl
  | cons c cs =>
    have hc := (stops_cons p c cs).1 h
    simp [hc]

theorem stops_dropWhile (p : Char → Bool) (cs : List Char) : Stops p (cs.dropWhile p) := by
  have hhead := List.head?_dropWhile_not p cs
  intro c hc
  rw [Option.mem_def.1 hc] at hhead
  exact hhead

theorem takeWhile_run {p : Char → Bool} {run rest : List Char} (hp : ∀ c ∈ run, p c = true)
    (hs : Stops p rest) : (run ++ rest).takeWhile p = run := by
  rw [List.takeWhile_append_of_pos hp, hs.takeWhile_eq, List.append_nil]

theorem dropWhile_run {p : Char → Bool} {run rest : List Char} (hp : ∀ c ∈ run, p c = true)
    (hs : Stops p rest) : (run ++ rest).dropWhile p = rest := by
  rw [List.dropWhile_append_of_pos hp, hs.dropWhile_eq]

theorem span_run {p : Char → Bool} {run rest : List Char} (hp : ∀ c ∈ run, p c = true)
    (hs : Stops p rest) : (run ++ rest).span p = (run, rest) := by
  rw [List.span_eq_takeWhile_dropWhile, takeWhile_run hp hs, dropWhile_run hp hs]

theorem trimStart_of_stops {cs : List Char} (h : Stops isBlank cs) : trimStart cs = cs :=
  h.dropWhile_eq

theorem isDigit_iff {c : Char} : c.isDigit = true ↔ 48 ≤ c.toNat ∧ c.toNat ≤ 57 :=
  Char.isDigit_iff_toNat

theorem isBlank_of_isDigit {c : Char} (h : c.isDigit = true) : isBlank c = false := by
  have hd := isDigit_iff.1 h
  simp only [isBlank, Bool.or_eq_false_iff, Bool.and_eq_false_iff, decide_eq_false_iff_not,
    beq_eq_false_iff_ne]
  omega

theorem isDigit_of_mem_toDigits (n : Nat) : ∀ c ∈ Nat.toDigits 10 n, c.isDigit = true :=
  fun _ => Nat.isDigit_of_mem_toDigits (by decide) (by decide)

theorem toDigits_ne_zero_cons {n : Nat} {c : Char} {cs : List Char} :
    Nat.toDigits 10 n ≠ '0' :: c :: cs := by
  induction n using Nat.strongRecOn generalizing c cs with
  | ind n ih =>
    intro h
    by_cases hn : n < 10
    · simp [Nat.toDigits_of_lt_base hn] at h
    · rw [Nat.toDigits_of_base_le (by decide) (by omega)] at h
      cases hq : Nat.toDigits 10 (n / 10) with
      | nil => exact Nat.toDigits_ne_nil hq
      | cons d ds =>
        rw [hq, List.cons_append, List.cons.injEq] at h
        obtain ⟨rfl, h⟩ := h
        cases ds with
        | cons e es => exact ih (n / 10) (by omega) hq
        | nil =>
          -- a single zero is the quotient of a number below ten only
          have hz := congrArg (fun ds => Nat.ofDigitChars 10 ds 0) hq
          simp [Nat.ofDigitChars_cons] at hz
          omega

end StageGate.Text
