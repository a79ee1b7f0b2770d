import Mathlib.Tactic.Ring
import StageGate.Proofs.Clarity.Bound

/-!
Rounded averages. A score is the quotient of weighted sum and total weight rounded to the nearest whole
number; so it reaches a bound exactly when the sum reaches half a step less than the bound.
-/

set_option autoImplicit false

namespace StageGate.Clarity

/-- The nearest whole number to a quotient, the upper one of two that are equally near. -/
structure IsRounded (num den q : Nat) : Prop where
  le : 2 * den * q ≤ 2 * num + den
  lt : 2 * num + den < 2 * den * (q + 1)

variable {num den q t : Nat}

theorem isRounded_roundedQuotient (num : Nat) (hd : 0 < den) :
    IsRounded num den (roundedQuotient num den) where
  le := Nat.mul_div_le _ _
  lt := Nat.lt_mul_div_succ _ (by omega)

theorem IsRounded.eq {q' : Nat} (h : IsRounded num den q) (h' : IsRounded num den q') : q = q' := by
  have hlt : q < q' + 1 := Nat.lt_of_mul_lt_mul_left (Nat.lt_of_le_of_lt h.le h'.lt)
  have hlt' : q' < q + 1 := Nat.lt_of_mul_lt_mul_left (Nat.lt_of_le_of_lt h'.le h.lt)
  omega

theorem IsRounded.eq_iff_int (h : IsRounded num den q) {r : Int} :
    2 * den * r ≤ 2 * num + den ∧ 2 * num + den < 2 * den * (r + 1) ↔ r = q := by
  constructor
  · intro ⟨hle, hlt⟩
    have hr : 0 ≤ r := by
      by_contra hneg
      have hmul : (2 * den : Int) * (r + 1) ≤ 0 := Int.mul_nonpos_of_nonneg_of_nonpos (by omega) (by omega)
      omega
    obtain ⟨k, rfl⟩ := Int.eq_ofNat_of_zero_le hr
    rw [(⟨by exact_mod_cast hle, by exact_mod_cast hlt⟩ : IsRounded num den k).eq h]
  · intro hr
    subst hr
    exact ⟨by exact_mod_cast h.le, by exact_mod_cast h.lt⟩

theorem IsRounded.le_iff (h : IsRounded num den q) (ht : 1 ≤ t) :
    t ≤ q ↔ (2 * t - 1) * den ≤ 2 * num := by
  obtain ⟨k, rfl⟩ := Nat.exists_eq_add_of_le' ht
  have hk : (2 * (k + 1) - 1) * den = 2 * den * k + den := by
    rw [show 2 * (k + 1) - 1 = 2 * k + 1 by omega]
    ring
  have hle := h.le
  have hlt := h.lt
  rw [hk]
  constructor
  · intro hq
    have hmul : 2 * den * (k + 1) ≤ 2 * den * q := Nat.mul_le_mul_left _ hq
    rw [Nat.mul_succ] at hmul
    omega
  · intro hn
    by_contra hq
    have hmul : 2 * den * (q + 1) ≤ 2 * den * (k + 1) := Nat.mul_le_mul_left _ (by omega)
    rw [Nat.mul_succ _ k] at hmul
    omega

theorem toNat_score (rs : List Rating) :
    (score rs).toNat = roundedQuotient (weightedSum rs) (totalWeight rs) := by
  have hq : roundedQuotient (weightedSum rs) (totalWeight rs) ≤ 255 :=
    roundedQuotient_le (weightedSum_le fun r _ _ => by have := r.score.toNat_lt; omega)
  rw [score, if_pos (by omega)]
  simp only [Nat.toUInt8, UInt8.toNat_ofNat']
  omega

theorem score_of_no_weight {rs : List Rating} (h : totalWeight rs = 0) : score rs = 0 := by
  rw [← UInt8.toNat_inj, toNat_score, roundedQuotient, h]
  simp

end StageGate.Clarity
