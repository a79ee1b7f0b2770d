import Mathlib.Algebra.Order.Round
import Mathlib.Data.Finset.Max
import Mathlib.Data.Rat.Floor
import StageGate.Proofs.Clarity.Average

/-!
The score as a weighted mean. It is the exact average of a judgement, rounded, so whatever holds of
averages passes on to scores: neither the order of the ratings nor the unit of their weights matters,
better ratings never lower it, and it leaves neither end of the scores that have weight.
-/

set_option autoImplicit false

namespace StageGate.Clarity

/-- The average of the scores, each as often as its weight says; zero if nothing has weight. -/
def average (rs : List Rating) : ℚ := weightedSum rs / totalWeight rs

/-! ### Rounding -/

variable {rs rs' : List Rating} {n : Nat}

theorem toNat_score_eq_round (rs : List Rating) : ((score rs).toNat : ℤ) = round (average rs) := by
  rw [toNat_score, average]
  cases Nat.eq_zero_or_pos (totalWeight rs) with
  | inl h => simp [roundedQuotient, h]
  | inr h =>
    have hw : (totalWeight rs : ℚ) ≠ 0 := by exact_mod_cast h.ne'
    have hhalf : (weightedSum rs : ℚ) / totalWeight rs + 1 / 2 =
        (2 * weightedSum rs + totalWeight rs : ℕ) / (2 * totalWeight rs : ℕ) := by
      push_cast
      field_simp
    rw [round_eq, hhalf, Rat.floor_natCast_div_natCast, roundedQuotient]
    rfl

theorem round_le_round {x y : ℚ} (h : x ≤ y) : round x ≤ round y := by
  rw [round_eq, round_eq]
  exact Int.floor_mono (add_le_add_left h _)

theorem score_le_score (h : average rs ≤ average rs') : score rs ≤ score rs' := by
  have hround := round_le_round h
  rw [← toNat_score_eq_round, ← toNat_score_eq_round] at hround
  rw [UInt8.le_iff_toNat_le]
  exact_mod_cast hround

theorem score_congr (h : average rs = average rs') : score rs = score rs' := by
  rw [← UInt8.toNat_inj]
  exact_mod_cast (toNat_score_eq_round rs).trans (h ▸ (toNat_score_eq_round rs').symm)

theorem le_score (h : (n : ℚ) ≤ average rs) : n ≤ (score rs).toNat := by
  have hround := round_le_round h
  rw [← toNat_score_eq_round, round_natCast] at hround
  exact_mod_cast hround

/-! ### Order and unit -/

theorem totalWeight_eq_sum (rs : List Rating) : totalWeight rs = (rs.map (·.weight.toNat)).sum := by
  induction rs with
  | nil => rfl
  | cons r rs ih => rw [totalWeight_cons, List.map_cons, List.sum_cons, ih]

theorem weightedSum_eq_sum (rs : List Rating) :
    weightedSum rs = (rs.map fun r => r.weight.toNat * r.score.toNat).sum := by
  induction rs with
  | nil => rfl
  | cons r rs ih => rw [weightedSum_cons, List.map_cons, List.sum_cons, ih]

theorem average_perm (h : rs.Perm rs') : average rs = average rs' := by
  rw [average, average, weightedSum_eq_sum, weightedSum_eq_sum, totalWeight_eq_sum,
    totalWeight_eq_sum, (h.map _).sum_eq, (h.map _).sum_eq]

def Rating.hasWeight (r : Rating) : Bool := 0 < r.weight

theorem Rating.hasWeight_iff {r : Rating} : r.hasWeight = true ↔ 0 < r.weight.toNat := by
  rw [hasWeight, decide_eq_true_iff, UInt32.lt_iff_toNat_lt, UInt32.toNat_zero]

theorem average_filter_hasWeight (rs : List Rating) :
    average (rs.filter (·.hasWeight)) = average rs := by
  have hsums : weightedSum (rs.filter (·.hasWeight)) = weightedSum rs ∧
      totalWeight (rs.filter (·.hasWeight)) = totalWeight rs := by
    induction rs with
    | nil => exact ⟨rfl, rfl⟩
    | cons r rs ih =>
      by_cases hr : r.hasWeight = true
      · simp [hr, ih]
      · have hw : r.weight.toNat = 0 := by
          have := mt Rating.hasWeight_iff.2 hr
          omega
        simp [hr, hw, ih]
  rw [average, average, hsums.1, hsums.2]

/-- The same scores with weights that are all as many times as large. -/
def Scaled (k : Nat) : List Rating → List Rating → Prop :=
  List.Forall₂ fun r r' => r'.score = r.score ∧ r'.weight.toNat = k * r.weight.toNat

theorem average_scaled {k : Nat} (hk : 0 < k) (h : Scaled k rs rs') : average rs' = average rs := by
  have hsums : weightedSum rs' = k * weightedSum rs ∧ totalWeight rs' = k * totalWeight rs := by
    induction h with
    | nil => exact ⟨rfl, rfl⟩
    | @cons r r' rs rs' hr _ ih =>
      obtain ⟨hscore, hweight⟩ := hr
      rw [weightedSum_cons, weightedSum_cons, totalWeight_cons, totalWeight_cons, hscore, hweight,
        ih.1, ih.2, Nat.mul_add, Nat.mul_add, Nat.mul_assoc]
      exact ⟨rfl, rfl⟩
  have hk : (k : ℚ) ≠ 0 := by exact_mod_cast hk.ne'
  rw [average, average, hsums.1, hsums.2, Nat.cast_mul, Nat.cast_mul, mul_div_mul_left _ _ hk]

/-! ### Better scores -/

/-- The same weights with scores that are at least as high. -/
def Raised : List Rating → List Rating → Prop :=
  List.Forall₂ fun r r' => r'.weight = r.weight ∧ r.score ≤ r'.score

theorem average_raised (h : Raised rs rs') : average rs ≤ average rs' := by
  have hsums : weightedSum rs ≤ weightedSum rs' ∧ totalWeight rs = totalWeight rs' := by
    induction h with
    | nil => exact ⟨Nat.le_refl _, rfl⟩
    | @cons r r' rs rs' hr _ ih =>
      obtain ⟨hweight, hscore⟩ := hr
      have hmul : r.weight.toNat * r.score.toNat ≤ r.weight.toNat * r'.score.toNat :=
        Nat.mul_le_mul_left _ (UInt8.le_iff_toNat_le.1 hscore)
      rw [weightedSum_cons, weightedSum_cons, totalWeight_cons, totalWeight_cons, hweight]
      omega
  have hle : (weightedSum rs : ℚ) ≤ weightedSum rs' := by exact_mod_cast hsums.1
  rw [average, average, hsums.2]
  exact div_le_div_of_nonneg_right hle (Nat.cast_nonneg _)

/-! ### More weight -/

theorem average_reweighted {before after : List Rating} {r : Rating} {w : UInt32} {more : Nat}
    (hw : w.toNat = r.weight.toNat + more) :
    average (before ++ { r with weight := w } :: after) =
      (weightedSum (before ++ r :: after) + more * r.score.toNat) /
        (totalWeight (before ++ r :: after) + more) := by
  have hsum : weightedSum (before ++ { r with weight := w } :: after) =
      weightedSum (before ++ r :: after) + more * r.score.toNat := by
    simp only [weightedSum_append, weightedSum_cons, hw, Nat.add_mul]
    omega
  have htotal : totalWeight (before ++ { r with weight := w } :: after) =
      totalWeight (before ++ r :: after) + more := by
    simp only [totalWeight_append, totalWeight_cons, hw]
    omega
  rw [average, hsum, htotal]
  push_cast
  rfl

theorem le_mediant {s t d x : ℚ} (ht : 0 < t) (hd : 0 ≤ d) (h : s / t ≤ x) :
    s / t ≤ (s + d * x) / (t + d) := by
  have hs : s ≤ x * t := (div_le_iff₀ ht).1 h
  rw [div_le_div_iff₀ ht (by linarith)]
  calc s * (t + d) = s * t + d * s := by ring
    _ ≤ s * t + d * (x * t) := by gcongr
    _ = (s + d * x) * t := by ring

theorem mediant_le {s t d x : ℚ} (ht : 0 < t) (hd : 0 ≤ d) (h : x ≤ s / t) :
    (s + d * x) / (t + d) ≤ s / t := by
  have hs : x * t ≤ s := (le_div_iff₀ ht).1 h
  rw [div_le_div_iff₀ (by linarith) ht]
  calc (s + d * x) * t = s * t + d * (x * t) := by ring
    _ ≤ s * t + d * s := by gcongr
    _ = s * (t + d) := by ring

section Reweighted

variable {before after : List Rating} {r : Rating} {w : UInt32}

theorem score_le_reweighted (ht : 0 < totalWeight (before ++ r :: after)) (hw : r.weight ≤ w)
    (h : average (before ++ r :: after) ≤ r.score.toNat) :
    score (before ++ r :: after) ≤ score (before ++ { r with weight := w } :: after) := by
  obtain ⟨more, hmore⟩ := Nat.exists_eq_add_of_le (UInt32.le_iff_toNat_le.1 hw)
  apply score_le_score
  rw [average_reweighted hmore]
  exact le_mediant (by exact_mod_cast ht) (Nat.cast_nonneg _) h

theorem reweighted_le_score (ht : 0 < totalWeight (before ++ r :: after)) (hw : r.weight ≤ w)
    (h : r.score.toNat ≤ average (before ++ r :: after)) :
    score (before ++ { r with weight := w } :: after) ≤ score (before ++ r :: after) := by
  obtain ⟨more, hmore⟩ := Nat.exists_eq_add_of_le (UInt32.le_iff_toNat_le.1 hw)
  apply score_le_score
  rw [average_reweighted hmore]
  exact mediant_le (by exact_mod_cast ht) (Nat.cast_nonneg _) h

end Reweighted

/-! ### Between the ends -/

def counted (rs : List Rating) : Finset Nat :=
  ((rs.filter (·.hasWeight)).map (·.score.toNat)).toFinset

theorem mem_counted : n ∈ counted rs ↔ ∃ r ∈ rs, 0 < r.weight.toNat ∧ r.score.toNat = n := by
  simp [counted, Rating.hasWeight_iff, and_assoc]

theorem totalWeight_pos_iff : 0 < totalWeight rs ↔ ∃ r ∈ rs, 0 < r.weight.toNat := by
  induction rs with
  | nil => simp
  | cons r rs ih => simp [← ih]

theorem totalWeight_pos_of_counted (h : (counted rs).Nonempty) : 0 < totalWeight rs := by
  obtain ⟨n, hn⟩ := h
  obtain ⟨r, hr, hw, -⟩ := mem_counted.1 hn
  exact totalWeight_pos_iff.2 ⟨r, hr, hw⟩

theorem score_le_of_counted (h : ∀ m ∈ counted rs, m ≤ n) : (score rs).toNat ≤ n := by
  rw [toNat_score]
  exact roundedQuotient_le (weightedSum_le fun r hr hw => h _ (mem_counted.2 ⟨r, hr, hw, rfl⟩))

theorem le_score_of_counted (hne : (counted rs).Nonempty) (h : ∀ m ∈ counted rs, n ≤ m) :
    n ≤ (score rs).toNat := by
  have ht : (0 : ℚ) < totalWeight rs := by exact_mod_cast totalWeight_pos_of_counted hne
  apply le_score
  rw [average, le_div_iff₀ ht]
  have hsum : n * totalWeight rs ≤ weightedSum rs :=
    le_weightedSum fun r hr hw => h _ (mem_counted.2 ⟨r, hr, hw, rfl⟩)
  exact_mod_cast hsum

/-- The score is a weighted mean. It does not change when ratings are put in another order, when ratings
without weight come or go, and when all weights are multiplied. It does not fall when scores rise. More
weight on a rating that is no lower than the average does not lower it, and more weight on one that is no
higher does not raise it. It lies between the lowest and the highest of the scores that have weight. -/
theorem score_as_mean (rs : List Rating) :
    (∀ rs', rs.Perm rs' → score rs' = score rs) ∧
    (∀ rs', rs'.filter (·.hasWeight) = rs.filter (·.hasWeight) → score rs' = score rs) ∧
    (∀ k rs', 0 < k → Scaled k rs rs' → score rs' = score rs) ∧
    (∀ rs', Raised rs rs' → score rs ≤ score rs') ∧
    (∀ before r after w, rs = before ++ r :: after → 0 < totalWeight rs → r.weight ≤ w →
      (average rs ≤ r.score.toNat → score rs ≤ score (before ++ { r with weight := w } :: after)) ∧
      (r.score.toNat ≤ average rs → score (before ++ { r with weight := w } :: after) ≤ score rs)) ∧
    ((∃ r ∈ rs, 0 < r.weight) → ∃ h : (counted rs).Nonempty,
      (counted rs).min' h ≤ (score rs).toNat ∧ (score rs).toNat ≤ (counted rs).max' h) ∧
    ((∀ n ∈ counted rs, n ≤ 100) → (score rs).toNat ≤ 100) := by
  refine ⟨fun rs' h => score_congr (average_perm h).symm, fun rs' h => score_congr ?_,
    fun k rs' hk h => score_congr (average_scaled hk h), fun rs' h => score_le_score (average_raised h),
    ?_, ?_, score_le_of_counted⟩
  · rw [← average_filter_hasWeight rs', h, average_filter_hasWeight]
  · intro before r after w hrs ht hw
    subst hrs
    exact ⟨score_le_reweighted ht hw, reweighted_le_score ht hw⟩
  · intro ⟨r, hr, hw⟩
    have h : (counted rs).Nonempty := ⟨_, mem_counted.2 ⟨r, hr, UInt32.lt_iff_toNat_lt.1 hw, rfl⟩⟩
    exact ⟨h, le_score_of_counted h fun m hm => Finset.min'_le _ m hm,
      score_le_of_counted fun m hm => Finset.le_max' _ m hm⟩

/-- Three ratings whose average lies half way between two whole numbers, and one that does not count. -/
def halfWay : List Rating :=
  [⟨.security, 1, 69⟩, ⟨.edgeCases, 0, 100⟩, ⟨.dataModel, 1, 70⟩, ⟨.security, 2, 69⟩,
    ⟨.dataModel, 2, 70⟩]

theorem average_halfWay : average halfWay = 139 / 2 := by
  have hsum : weightedSum halfWay = 417 := by decide
  have htotal : totalWeight halfWay = 6 := by decide
  rw [average, hsum, htotal]
  norm_num

theorem score_as_mean_halfWay :
    score halfWay = 70 ∧ score halfWay.reverse = score halfWay ∧
    score (halfWay.filter (·.hasWeight)) = score halfWay ∧
    score (halfWay.map fun r => { r with weight := 1000000 * r.weight }) = score halfWay ∧
    score halfWay ≤ score (halfWay.map fun r => { r with score := 100 }) ∧
    score (⟨.security, 0xFFFFFFFF, 69⟩ :: halfWay.tail) ≤ score halfWay ∧
    69 ≤ (score halfWay).toNat ∧ (score halfWay).toNat ≤ 100 := by
  obtain ⟨hperm, hweight, hscaled, hraised, hmore, hends, hmax⟩ := score_as_mean halfWay
  refine ⟨by decide, hperm _ halfWay.reverse_perm.symm, hweight _ (by decide),
    hscaled 1000000 _ (by decide) ?_, hraised _ ?_, ?_, ?_, hmax (by decide)⟩
  · rw [Scaled, List.forall₂_map_right_iff, List.forall₂_same]
    decide
  · rw [Raised, List.forall₂_map_right_iff, List.forall₂_same]
    decide
  · refine (hmore [] ⟨.security, 1, 69⟩ halfWay.tail 0xFFFFFFFF rfl (by decide) (by decide)).2 ?_
    have h : ((69 : ℕ) : ℚ) ≤ 139 / 2 := by norm_num
    rw [average_halfWay]
    exact h
  · obtain ⟨hne, hmin, -⟩ := hends ⟨⟨.security, 1, 69⟩, by decide, by decide⟩
    exact (Finset.le_min' _ hne 69 (by decide)).trans hmin

end StageGate.Clarity
