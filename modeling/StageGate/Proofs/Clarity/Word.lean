import StageGate.Clarity.Word
import StageGate.Proofs.Clarity.Average

/-!
The score in words of 64 bits is the score. Each operation on words is exact or gives nothing, so the
work succeeds when the last numerator and the last divisor fit, and then it gives the rounded average of
the exact sums; both fit as long as a judgement has no more than 8405024 ratings, whatever their weights.
-/

set_option autoImplicit false

namespace StageGate.Clarity

/-! ### Words -/

namespace Word

variable {a b c : UInt64} {n : Nat}

theorem exists_toNat (h : n < 2 ^ 64) : ∃ c : UInt64, c.toNat = n :=
  ⟨n.toUInt64, by rw [Nat.toUInt64_eq, UInt64.toNat_ofNat', Nat.mod_eq_of_lt h]⟩

theorem ofNat?_eq_some_iff : ofNat? n = some c ↔ c.toNat = n := by
  have hc : c.toNat < UInt64.size := c.toNat_lt
  rw [ofNat?]
  split
  · next hn =>
    rw [Option.some.injEq, ← UInt64.toNat_inj, Nat.toUInt64_eq, UInt64.toNat_ofNat', eq_comm,
      Nat.mod_eq_of_lt hn]
  · next hn =>
    simp only [reduceCtorEq, false_iff]
    omega

theorem add?_eq_some_iff : add? a b = some c ↔ c.toNat = a.toNat + b.toNat := ofNat?_eq_some_iff

theorem mul?_eq_some_iff : mul? a b = some c ↔ c.toNat = a.toNat * b.toNat := ofNat?_eq_some_iff

theorem eq_zero_iff : b = 0 ↔ b.toNat = 0 := by rw [← UInt64.toNat_inj, UInt64.toNat_zero]

theorem div?_eq_some_iff : div? a b = some c ↔ b.toNat ≠ 0 ∧ c.toNat = a.toNat / b.toNat := by
  rw [div?]
  split
  · next h => simp [eq_zero_iff.1 h]
  · next h =>
    rw [Option.some.injEq, ← UInt64.toNat_inj, UInt64.toNat_div, eq_comm]
    exact (and_iff_right (mt eq_zero_iff.2 h)).symm

theorem toByte?_eq_some_iff {x : UInt8} : toByte? a = some x ↔ x.toNat = a.toNat := by
  have hx := x.toNat_lt
  have ha : a < 256 ↔ a.toNat < 256 := UInt64.lt_iff_toNat_lt
  rw [toByte?]
  split
  · next h =>
    rw [Option.some.injEq, ← UInt8.toNat_inj, UInt64.toNat_toUInt8, eq_comm,
      Nat.mod_eq_of_lt (ha.1 h)]
  · next h =>
    have hn := mt ha.2 h
    simp only [reduceCtorEq, false_iff]
    omega

end Word

open Word

/-! ### The sums -/

variable {s s' : Sums} {r : Rating} {rs : List Rating} {x : UInt8}

theorem weighted_lt (r : Rating) : r.weight.toNat * r.score.toNat < 2 ^ 64 := by
  have hw := r.weight.toNat_lt
  have hs := r.score.toNat_lt
  have hmul : r.weight.toNat * r.score.toNat ≤ 2 ^ 32 * 2 ^ 8 :=
    Nat.mul_le_mul (Nat.le_of_lt hw) (Nat.le_of_lt hs)
  omega

theorem Sums.add?_eq_some_iff : s.add? r = some s' ↔
    s'.weighted.toNat = s.weighted.toNat + r.weight.toNat * r.score.toNat ∧
      s'.total.toNat = s.total.toNat + r.weight.toNat := by
  obtain ⟨product, hp⟩ := exists_toNat (weighted_lt r)
  have hmul : mul? r.weight.toUInt64 r.score.toUInt64 = some product := by
    rw [mul?_eq_some_iff, UInt32.toNat_toUInt64, UInt8.toNat_toUInt64, hp]
  cases s' with
  | mk weighted total =>
    simp only [add?, hmul, Option.bind_eq_bind, Option.bind_eq_some_iff, Option.some.injEq,
      exists_eq_left', Word.add?_eq_some_iff, hp, UInt32.toNat_toUInt64, pure, Sums.mk.injEq]
    constructor
    · rintro ⟨w, hw, t, ht, rfl, rfl⟩
      exact ⟨hw, ht⟩
    · intro ⟨hw, ht⟩
      exact ⟨weighted, hw, total, ht, rfl, rfl⟩

/-- The sums fit exactly when the last ones do: on the way to them they only grow. -/
theorem foldlM_add?_eq_some_iff : rs.foldlM Sums.add? s = some s' ↔
    s'.weighted.toNat = s.weighted.toNat + weightedSum rs ∧
      s'.total.toNat = s.total.toNat + totalWeight rs := by
  induction rs generalizing s with
  | nil =>
    rw [List.foldlM_nil, Option.pure_def, Option.some.injEq, Sums.ext_iff, ← UInt64.toNat_inj,
      ← UInt64.toNat_inj]
    simp [eq_comm]
  | cons r rs ih =>
    rw [List.foldlM_cons, Option.bind_eq_bind, Option.bind_eq_some_iff]
    simp only [ih, Sums.add?_eq_some_iff, weightedSum_cons, totalWeight_cons]
    constructor
    · intro ⟨next, ⟨hw, ht⟩, hw', ht'⟩
      omega
    · intro ⟨hw, ht⟩
      have hwlt := s'.weighted.toNat_lt
      have htlt := s'.total.toNat_lt
      obtain ⟨weighted, hweighted⟩ := exists_toNat
        (n := s.weighted.toNat + r.weight.toNat * r.score.toNat) (by omega)
      obtain ⟨total, htotal⟩ := exists_toNat (n := s.total.toNat + r.weight.toNat) (by omega)
      refine ⟨⟨weighted, total⟩, ⟨hweighted, htotal⟩, ?_, ?_⟩
      · simp only [hweighted]
        omega
      · simp only [htotal]
        omega

theorem sums?_eq_some_iff : sums? rs = some s ↔
    s.weighted.toNat = weightedSum rs ∧ s.total.toNat = totalWeight rs := by
  rw [sums?, foldlM_add?_eq_some_iff]
  simp

/-! ### The score -/

theorem Sums.score?_eq_some_iff (h : s.weighted.toNat ≤ 255 * s.total.toNat) : s.score? = some x ↔
    2 * s.weighted.toNat + s.total.toNat < 2 ^ 64 ∧ 2 * s.total.toNat < 2 ^ 64 ∧
      x.toNat = roundedQuotient s.weighted.toNat s.total.toNat := by
  have htwo : (2 : UInt64).toNat = 2 := rfl
  rw [score?]
  split
  · next ht =>
    have ht := eq_zero_iff.1 ht
    have hw : s.weighted.toNat = 0 := by omega
    rw [Option.pure_def, Option.some.injEq, ht, hw, eq_comm, ← UInt8.toNat_inj]
    simp [roundedQuotient]
  · next ht =>
    have ht := mt eq_zero_iff.2 ht
    simp only [Option.bind_eq_bind, Option.bind_eq_some_iff, mul?_eq_some_iff,
      Word.add?_eq_some_iff, div?_eq_some_iff, toByte?_eq_some_iff, htwo, roundedQuotient]
    constructor
    · intro h
      obtain ⟨twice, htwice, num, hnum, den, hden, q, ⟨_, hq⟩, hx⟩ := h
      have hnumlt := num.toNat_lt
      have hdenlt := den.toNat_lt
      rw [hx, hq, hnum, hden, htwice]
      omega
    · intro h
      obtain ⟨hnumlt, hdenlt, hx⟩ := h
      obtain ⟨twice, htwice⟩ := exists_toNat (n := 2 * s.weighted.toNat) (by omega)
      obtain ⟨num, hnum⟩ := exists_toNat hnumlt
      obtain ⟨den, hden⟩ := exists_toNat hdenlt
      have hq : (num / den).toNat = num.toNat / den.toNat := UInt64.toNat_div num den
      exact ⟨twice, htwice, num, by omega, den, hden, num / den, ⟨by omega, hq⟩,
        by rw [hx, hq, hnum, hden]⟩

theorem weightedSum_le_totalWeight (rs : List Rating) : weightedSum rs ≤ 255 * totalWeight rs :=
  weightedSum_le fun r _ _ => Nat.le_of_lt_succ r.score.toNat_lt

theorem wordScore?_eq_some_iff : wordScore? rs = some x ↔
    2 * weightedSum rs + totalWeight rs < 2 ^ 64 ∧ 2 * totalWeight rs < 2 ^ 64 ∧ x = score rs := by
  have hbound := weightedSum_le_totalWeight rs
  have hscore : x = score rs ↔ x.toNat = roundedQuotient (weightedSum rs) (totalWeight rs) := by
    rw [← UInt8.toNat_inj, toNat_score]
  rw [hscore, wordScore?, Option.bind_eq_bind, Option.bind_eq_some_iff]
  simp only [sums?_eq_some_iff]
  constructor
  · intro ⟨s, ⟨hw, ht⟩, hs⟩
    rw [← hw, ← ht] at hbound ⊢
    exact (Sums.score?_eq_some_iff hbound).1 hs
  · intro ⟨hnum, hden, hx⟩
    obtain ⟨weighted, hweighted⟩ := exists_toNat (n := weightedSum rs) (by omega)
    obtain ⟨total, htotal⟩ := exists_toNat (n := totalWeight rs) (by omega)
    rw [← htotal] at hnum hden hx hbound
    rw [← hweighted] at hnum hx hbound
    exact ⟨⟨weighted, total⟩, ⟨hweighted, htotal⟩,
      (Sums.score?_eq_some_iff hbound).2 ⟨hnum, hden, hx⟩⟩

/-! ### How many ratings fit -/

theorem totalWeight_le (rs : List Rating) : totalWeight rs ≤ (2 ^ 32 - 1) * rs.length := by
  induction rs with
  | nil => simp
  | cons r rs ih =>
    have hw := r.weight.toNat_lt
    rw [totalWeight_cons, List.length_cons, Nat.mul_succ]
    omega

def heaviest (n : Nat) : List Rating := List.replicate n ⟨.security, 0xFFFFFFFF, 0xFF⟩

theorem totalWeight_heaviest (n : Nat) : totalWeight (heaviest n) = (2 ^ 32 - 1) * n := by
  induction n with
  | zero => rfl
  | succ n ih =>
    have hw : (0xFFFFFFFF : UInt32).toNat = 2 ^ 32 - 1 := rfl
    rw [heaviest] at ih ⊢
    rw [List.replicate_succ, totalWeight_cons, ih, hw, Nat.mul_succ, Nat.add_comm]

theorem weightedSum_heaviest (n : Nat) :
    weightedSum (heaviest n) = 255 * totalWeight (heaviest n) := by
  induction n with
  | zero => rfl
  | succ n ih =>
    have hw : (0xFFFFFFFF : UInt32).toNat * (0xFF : UInt8).toNat = 255 * (0xFFFFFFFF : UInt32).toNat :=
      rfl
    rw [heaviest] at ih ⊢
    rw [List.replicate_succ, weightedSum_cons, totalWeight_cons, ih, hw, Nat.mul_add]

/-- The bound on the number of ratings cannot be raised. -/
theorem isSome_wordScore?_heaviest {n : Nat} :
    (wordScore? (heaviest n)).isSome = true ↔ n ≤ 8405024 := by
  have ht := totalWeight_heaviest n
  have hw := weightedSum_heaviest n
  rw [Option.isSome_iff_exists]
  simp only [wordScore?_eq_some_iff, exists_and_left, exists_eq, and_true]
  omega

/-- A judgement of at most 8405024 ratings, with any weights and scores, is worked out in words of 64 bits
without a sum or a product that outgrows them. No division is by zero, the quotient fits into a byte, and
the score is the average rounded to the nearest whole number, a half upwards. -/
theorem score_exact_in_words {rs : List Rating} (h : rs.length ≤ 8405024) :
    let sum := weightedSum rs
    let total := totalWeight rs
    (∀ read, read <+: rs → weightedSum read < 2 ^ 64 ∧ totalWeight read < 2 ^ 64) ∧
    2 * sum < 2 ^ 64 ∧ 2 * sum + total < 2 ^ 64 ∧ 2 * total < 2 ^ 64 ∧
    wordScore? rs = some (score rs) ∧
    if total = 0 then score rs = 0
    else
      (2 * sum + total) / (2 * total) < 256 ∧
      (∀ q : Int, 2 * total * q ≤ 2 * sum + total ∧ 2 * sum + total < 2 * total * (q + 1) ↔
        q = (score rs).toNat) ∧
      ∀ t, 1 ≤ t → (t ≤ (score rs).toNat ↔ (2 * t - 1) * total ≤ 2 * sum) := by
  intro sum total
  have htotal : total ≤ (2 ^ 32 - 1) * rs.length := totalWeight_le rs
  have hsum : sum ≤ 255 * total := weightedSum_le_totalWeight rs
  refine ⟨fun read hread => ?_, by omega, by omega, by omega, ?_, ?_⟩
  · obtain ⟨rest, rfl⟩ := hread
    have hw : sum = weightedSum read + weightedSum rest := weightedSum_append read rest
    have ht : total = totalWeight read + totalWeight rest := totalWeight_append read rest
    omega
  · exact wordScore?_eq_some_iff.2 ⟨by omega, by omega, rfl⟩
  · split
    · next hzero => exact score_of_no_weight hzero
    · next hpos =>
      have hrounded : IsRounded sum total (score rs).toNat := by
        rw [toNat_score]
        exact isRounded_roundedQuotient _ (by omega)
      have hbyte : roundedQuotient sum total < 256 := by
        rw [← toNat_score]
        exact (score rs).toNat_lt
      exact ⟨hbyte, fun _ => hrounded.eq_iff_int, fun t ht => hrounded.le_iff ht⟩

/-- The largest weights there are, with scores of which one is above the highest that a list gives. -/
theorem score_exact_in_words_heavy :
    let rs : List Rating :=
      [⟨.security, 0xFFFFFFFF, 255⟩, ⟨.dataModel, 0xFFFFFFFF, 70⟩, ⟨.security, 1, 0⟩]
    rs.length ≤ 8405024 ∧ wordScore? rs = some (score rs) ∧ score rs = 162 := by
  intro rs
  have h : rs.length ≤ 8405024 := by decide
  exact ⟨h, (score_exact_in_words h).2.2.2.2.1, by decide⟩

end StageGate.Clarity
