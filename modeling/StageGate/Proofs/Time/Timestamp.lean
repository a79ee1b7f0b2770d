import StageGate.Proofs.Text.Digits
import StageGate.Time.Timestamp

/-!
Every instant is read back from its timestamp: years of any sign and length, any fraction of a second,
and leap seconds. Each part of a timestamp is read off in front of the rest.
-/

set_option autoImplicit false

namespace StageGate

namespace Time

open Text

/-! ### Numbers of a fixed width -/

theorem isDigit_of_mem_padded (width n : Nat) : ∀ c ∈ padded width n, c.isDigit = true := by
  intro c hc
  simp only [padded, List.mem_append, List.mem_replicate] at hc
  rcases hc with ⟨-, rfl⟩ | hc
  · decide
  · exact isDigit_of_mem_toDigits n c hc

@[simp] theorem ofDigitChars_padded (width n : Nat) : Nat.ofDigitChars 10 (padded width n) 0 = n := by
  simp [padded, Nat.ofDigitChars_append]

theorem length_padded (width n : Nat) :
    (padded width n).length = max width (Nat.toDigits 10 n).length := by
  simp only [padded, List.length_append, List.length_replicate]
  omega

theorem length_padded_of_lt {width n : Nat} (hw : 0 < width) (hn : n < Nat.pow 10 width) :
    (padded width n).length = width := by
  have h := (Nat.length_toDigits_le_iff (n := n) (by decide : 1 < 10) hw).2 hn
  rw [length_padded]
  omega

theorem padded_ne_nil (width n : Nat) : padded width n ≠ [] := by
  simp [padded]

theorem stops_padded {p : Char → Bool} (hp : ∀ c, c.isDigit = true → p c = false) (width n : Nat)
    (rest : List Char) : Stops p (padded width n ++ rest) := by
  cases hq : padded width n with
  | nil => exact absurd hq (padded_ne_nil width n)
  | cons c cs =>
    have hc := isDigit_of_mem_padded width n c (by simp [hq])
    simpa using hp c hc

theorem trimStart_padded (width n : Nat) (rest : List Char) :
    trimStart (padded width n ++ rest) = padded width n ++ rest :=
  trimStart_of_stops (stops_padded (fun _ => isBlank_of_isDigit) width n rest)

theorem number?_padded {atMost width n : Nat} (rest : List Char)
    (hl : (padded width n).length = atMost ∨
      (padded width n).length ≤ atMost ∧ Stops Char.isDigit rest) :
    number? atMost (padded width n ++ rest) = some (n, rest) := by
  have hd := isDigit_of_mem_padded width n
  have ht : ((padded width n ++ rest).take atMost).takeWhile Char.isDigit = padded width n := by
    rcases hl with hl | ⟨hl, hs⟩
    · rw [← hl, List.take_left]
      simpa using takeWhile_run hd (stops_nil Char.isDigit)
    · rw [List.take_append, List.take_of_length_le hl]
      apply takeWhile_run hd
      intro c hc
      rw [List.head?_take] at hc
      split at hc
      · simp at hc
      · exact hs c hc
  unfold number?
  rw [ht]
  split
  · next hq => exact absurd hq (padded_ne_nil width n)
  · simp

theorem twoDigits?_padded {n : Nat} (hn : n < 100) (rest : List Char) :
    twoDigits? (padded 2 n ++ rest) = some (n, rest) := by
  rw [twoDigits?, trimStart_padded]
  exact number?_padded rest (Or.inl (length_padded_of_lt (by decide) hn))

theorem mark?_cons {mark : Char} (h : isBlank mark = false) (rest : List Char) :
    mark? mark (mark :: rest) = some rest := by
  simp [mark?, trimStart, h]

theorem some_bind {α β : Type} (a : α) (f : α → Option β) : (some a >>= f) = f a := rfl

theorem divider?_mark (rest : List Char) : divider? ('T' :: rest) = some rest := rfl

/-! ### The parts of a timestamp -/

theorem year?_writeYear (year : Int) (rest : List Char) :
    year? (writeYear year ++ '-' :: rest) = some (year, '-' :: rest) := by
  by_cases h : 0 ≤ year ∧ year ≤ 9999
  · have hn : year.toNat < Nat.pow 10 4 := show year.toNat < 10000 by omega
    have hy : ((year.toNat : Nat) : Int) = year := by omega
    have hr := number?_padded ('-' :: rest) (Or.inl (length_padded_of_lt (by decide) hn))
    simp only [writeYear, h, and_self, if_true, year?, trimStart_padded]
    cases hq : padded 4 year.toNat with
    | nil => exact absurd hq (padded_ne_nil 4 year.toNat)
    | cons c cs =>
      have hc := isDigit_of_mem_padded 4 year.toNat c (by simp [hq])
      rw [hq] at hr
      have hminus : c ≠ '-' := by rintro rfl; revert hc; decide
      have hplus : c ≠ '+' := by rintro rfl; revert hc; decide
      split <;> simp_all
  · have hr : number? (padded 4 year.natAbs ++ '-' :: rest).length
        (padded 4 year.natAbs ++ '-' :: rest) = some (year.natAbs, '-' :: rest) :=
      number?_padded ('-' :: rest) (Or.inr ⟨by simp, by simp⟩)
    simp only [writeYear, h, if_false, List.cons_append, year?]
    by_cases hneg : year < 0
    · have hy : -(year.natAbs : Int) = year := by omega
      simp only [hneg, if_true, trimStart, List.dropWhile_cons, show isBlank '-' = false by decide,
        Bool.false_eq_true, if_false, hr, Option.map_some, hy]
    · have hy : (year.natAbs : Int) = year := by omega
      simp only [hneg, if_false, trimStart, List.dropWhile_cons, show isBlank '+' = false by decide,
        Bool.false_eq_true, hr, Option.map_some, hy]

theorem takeWhile_padded {width n : Nat} {rest : List Char} (hs : Stops Char.isDigit rest) :
    (padded width n ++ rest).takeWhile Char.isDigit = padded width n :=
  takeWhile_run (isDigit_of_mem_padded width n) hs

theorem fraction?_padded {width n : Nat} (hw : 0 < width) (h9 : width ≤ 9) (hn : n < Nat.pow 10 width)
    {rest : List Char} (hs : Stops Char.isDigit rest) :
    fraction? ('.' :: (padded width n ++ rest)) = some (n * Nat.pow 10 (9 - width), rest) := by
  have hl := length_padded_of_lt hw hn
  have ht : (padded width n).take 9 = padded width n := List.take_of_length_le (by omega)
  simp only [fraction?, takeWhile_padded hs]
  split
  · next hq => exact absurd hq (padded_ne_nil width n)
  · simp [ht, hl]

theorem fraction?_writeFraction {nano : Nat} (h : nano < nanosPerSecond) {c : Char}
    (hc : c.isDigit = false) (hp : c ≠ '.') (rest : List Char) :
    fraction? (writeFraction nano ++ c :: rest) = some (nano, c :: rest) := by
  have hs : Stops Char.isDigit (c :: rest) := by simpa using hc
  simp only [nanosPerSecond] at h
  unfold writeFraction
  split
  · next hz =>
    unfold fraction?
    split <;> simp_all
  · split
    · have hlt : nano / 1000000 < Nat.pow 10 3 := show nano / 1000000 < 1000 by omega
      have hn : nano / 1000000 * Nat.pow 10 6 = nano := show nano / 1000000 * 1000000 = nano by omega
      rw [List.cons_append, fraction?_padded (by decide) (by decide) hlt hs, hn]
    · split
      · have hlt : nano / 1000 < Nat.pow 10 6 := show nano / 1000 < 1000000 by omega
        have hn : nano / 1000 * Nat.pow 10 3 = nano := show nano / 1000 * 1000 = nano by omega
        rw [List.cons_append, fraction?_padded (by decide) (by decide) hlt hs, hn]
      · rw [List.cons_append, fraction?_padded (by decide) (by decide) h hs]
        simp

theorem offset?_zulu (rest : List Char) : offset? ('Z' :: rest) = some (0, rest) := by
  simp [offset?, trimStart, show isBlank 'Z' = false by decide]

theorem daysInMonth_le (year : Int) (month : Nat) : daysInMonth year month ≤ 31 := by
  unfold daysInMonth
  split <;> try split
  all_goals omega

theorem Date.month_lt (d : Date) : d.month < 100 := by
  have h := d.isDay
  by_contra hm
  have hz : daysInMonth d.year d.month = 0 := by
    unfold daysInMonth
    split <;> first | rfl | omega
  have := h.2.2
  omega

theorem Date.day_lt (d : Date) : d.day < 100 := by
  have h := d.isDay.2.2.2
  have := daysInMonth_le d.year d.month
  omega

end Time

namespace Instant

open Time Text

/-- The seconds that a timestamp shows, a leap second as the sixtieth, give the instant back. -/
theorem instantOf?_self (t : Instant) :
    instantOf? t.date (t.second / 3600) (t.second / 60 % 60)
      (t.second % 60 + t.nano / nanosPerSecond) (t.nano % nanosPerSecond) 0 = some t := by
  have hs := t.second_lt
  have hn := t.nano_lt
  have hl := t.leap_at_end
  simp only [nanosPerSecond, secondsPerDay] at hs hn hl
  have hnano : t.nano % nanosPerSecond +
      (if t.second % 60 + t.nano / nanosPerSecond = 60 then nanosPerSecond else 0) = t.nano := by
    by_cases h : t.second % 60 + t.nano / nanosPerSecond = 60
    · rw [if_pos h]
      simp only [nanosPerSecond] at h ⊢
      omega
    · rw [if_neg h]
      simp only [nanosPerSecond] at h ⊢
      omega
  have hshown : ((t.second / 3600 * 3600 + t.second / 60 % 60 * 60 +
      min (t.second % 60 + t.nano / nanosPerSecond) 59 : Nat) : Int) - 0 = t.second := by
    simp only [nanosPerSecond]
    omega
  have hday : (t.second : Int) / (secondsPerDay : Nat) = 0 := by simp only [secondsPerDay]; omega
  have hsec : ((t.second : Int) % (secondsPerDay : Nat)).toNat = t.second := by
    simp only [secondsPerDay]
    omega
  have hr : t.second / 3600 < 24 ∧ t.second / 60 % 60 < 60 ∧
      t.second % 60 + t.nano / nanosPerSecond ≤ 60 := by
    simp only [nanosPerSecond]
    omega
  simp only [instantOf?, hr, and_self, if_true, hnano, hshown, ofSeconds?, hday, hsec,
    Date.addDays?, Option.bind_eq_bind, Option.bind_some, of?_self]

theorem read?_write (t : Instant) : read? t.write = some t := by
  have hs := t.second_lt
  have hn := t.nano_lt
  simp only [secondsPerDay, nanosPerSecond] at hs hn
  have hhour : t.second / 3600 < 100 := by omega
  have hminute : t.second / 60 % 60 < 100 := by omega
  have hsecond : t.second % 60 + t.nano / nanosPerSecond < 100 := by
    simp only [nanosPerSecond]
    omega
  have hnano : t.nano % nanosPerSecond < nanosPerSecond := Nat.mod_lt _ (by decide)
  have hdash : isBlank '-' = false := by decide
  have hcolon : isBlank ':' = false := by decide
  have hzulu : Char.isDigit 'Z' = false := by decide
  have hi : instant? (t.writeLocal ++ ['Z']) = some (t, []) := by
    -- one part at a time: what stands behind a part is not looked at before the part is read
    simp only [instant?, writeLocal, List.append_assoc, List.cons_append]
    rw [year?_writeYear, some_bind]
    dsimp only
    rw [mark?_cons hdash, some_bind, twoDigits?_padded t.date.month_lt, some_bind]
    dsimp only
    rw [mark?_cons hdash, some_bind, twoDigits?_padded t.date.day_lt, some_bind]
    dsimp only
    rw [divider?_mark, some_bind, twoDigits?_padded hhour, some_bind]
    dsimp only
    rw [mark?_cons hcolon, some_bind, twoDigits?_padded hminute, some_bind]
    dsimp only
    rw [mark?_cons hcolon, some_bind, twoDigits?_padded hsecond, some_bind]
    dsimp only
    rw [fraction?_writeFraction hnano hzulu (by decide), some_bind]
    dsimp only
    rw [offset?_zulu, some_bind]
    dsimp only
    rw [Date.of?_self, some_bind, instantOf?_self, some_bind]
    rfl
  simp [read?, write, hi]

end Instant

end StageGate
