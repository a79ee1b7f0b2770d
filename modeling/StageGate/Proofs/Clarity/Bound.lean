import StageGate.Clarity.Score
import StageGate.Clarity.ScoreList

/-!
Scores are bounded. A score list gives no score above the highest one, and a weighted average, rounded,
stays below whatever bounds the scores it is made of.
-/

set_option autoImplicit false

namespace StageGate.Clarity

/-! ### The average -/

theorem weightedSum_le {rs : List Rating} {b : Nat}
    (h : ∀ r ∈ rs, 0 < r.weight.toNat → r.score.toNat ≤ b) : weightedSum rs ≤ b * totalWeight rs := by
  induction rs with
  | nil => simp
  | cons r rs ih =>
    have hr : r.weight.toNat * r.score.toNat ≤ r.weight.toNat * b := by
      cases Nat.eq_zero_or_pos r.weight.toNat with
      | inl hw => simp [hw]
      | inr hw => exact Nat.mul_le_mul_left _ (h r (by simp) hw)
    have hrs := ih fun r hr => h r (by simp [hr])
    rw [weightedSum_cons, totalWeight_cons, Nat.mul_add, Nat.mul_comm b]
    omega

theorem le_weightedSum {rs : List Rating} {b : Nat}
    (h : ∀ r ∈ rs, 0 < r.weight.toNat → b ≤ r.score.toNat) : b * totalWeight rs ≤ weightedSum rs := by
  induction rs with
  | nil => simp
  | cons r rs ih =>
    have hr : r.weight.toNat * b ≤ r.weight.toNat * r.score.toNat := by
      cases Nat.eq_zero_or_pos r.weight.toNat with
      | inl hw => simp [hw]
      | inr hw => exact Nat.mul_le_mul_left _ (h r (by simp) hw)
    have hrs := ih fun r hr => h r (by simp [hr])
    rw [weightedSum_cons, totalWeight_cons, Nat.mul_add, Nat.mul_comm b]
    omega

theorem roundedQuotient_le {num den b : Nat} (h : num ≤ b * den) : roundedQuotient num den ≤ b := by
  rw [roundedQuotient]
  cases Nat.eq_zero_or_pos den with
  | inl hd => simp [hd]
  | inr hd =>
    have hb : (b + 1) * (2 * den) = 2 * (b * den) + 2 * den := by
      rw [Nat.add_mul, Nat.mul_left_comm, Nat.one_mul]
    have hlt : (2 * num + den) / (2 * den) < b + 1 := by
      rw [Nat.div_lt_iff_lt_mul (by omega)]
      omega
    omega

theorem score_le {rs : List Rating} {b : UInt8} (h : ∀ r ∈ rs, r.score ≤ b) : score rs ≤ b := by
  have hq : roundedQuotient (weightedSum rs) (totalWeight rs) ≤ b.toNat :=
    roundedQuotient_le (weightedSum_le fun r hr _ => UInt8.le_iff_toNat_le.1 (h r hr))
  have hb := b.toNat_lt
  rw [UInt8.le_iff_toNat_le, score, if_pos (by omega)]
  simp only [Nat.toUInt8, UInt8.toNat_ofNat']
  omega

/-! ### Score lists -/

theorem clampScore_le (n : Int) : clampScore n ≤ maxScore := by
  have hm : maxScore.toNat = 100 := rfl
  rw [UInt8.le_iff_toNat_le, clampScore, hm]
  simp only [Nat.toUInt8, UInt8.toNat_ofNat']
  omega

theorem Reading.score_ofTrimmed_le {cs : List Char} {d : Dimension} {s : UInt8}
    (h : Reading.ofTrimmed cs = .scored d s) : s ≤ maxScore := by
  simp only [ofTrimmed] at h
  split at h
  · simp at h
  · split at h
    · simp at h
    · split at h
      · simp at h
      · split at h
        · simp at h
        · simp only [scored.injEq] at h
          obtain ⟨-, rfl⟩ := h
          exact clampScore_le _

theorem lastScore?_le {cs : List Char} {d : Dimension} {s : UInt8}
    (h : lastScore? d (readings cs) = some s) : s ≤ maxScore := by
  have hm := List.mem_of_getLast? h
  simp only [readings, List.mem_filterMap, List.mem_map] at hm
  obtain ⟨_, ⟨segment, -, rfl⟩, hs⟩ := hm
  cases hr : Reading.ofSegment segment with
  | blank => simp [hr, Reading.score?] at hs
  | ignored warning => simp [hr, Reading.score?] at hs
  | scored d' n =>
    rw [hr, Reading.score?] at hs
    split at hs
    · cases hs
      exact Reading.score_ofTrimmed_le hr
    · simp at hs

theorem score_applyScores_le {list : String} {rs : List Rating} (h : ∀ r ∈ rs, r.score ≤ maxScore) :
    ∀ r ∈ (applyScores list rs).ratings, r.score ≤ maxScore := by
  intro r hr
  obtain ⟨r, hm, rfl⟩ := List.mem_map.1 hr
  rw [Rating.withReadings]
  split
  · next n hn => exact lastScore?_le hn
  · exact h r hm

theorem score_blankRatings_le : ∀ r ∈ blankRatings, r.score ≤ maxScore := by
  intro r hr
  obtain ⟨d, -, rfl⟩ := List.mem_map.1 hr
  exact UInt8.le_iff_toNat_le.2 (Nat.zero_le _)

theorem score_round_le (list : String) : score (applyScores list blankRatings).ratings ≤ maxScore :=
  score_le (score_applyScores_le score_blankRatings_le)

end StageGate.Clarity
