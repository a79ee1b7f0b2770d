import StageGate.Clarity.Dimension

/-!
The clarity score: the average of the scores of all ratings, each as often as its weight says, rounded
to the nearest whole number and a half upwards.
-/

set_option autoImplicit false

namespace StageGate.Clarity

def totalWeight (rs : List Rating) : Nat := rs.foldr (fun r sum => r.weight.toNat + sum) 0

def weightedSum (rs : List Rating) : Nat :=
  rs.foldr (fun r sum => r.weight.toNat * r.score.toNat + sum) 0

@[simp] theorem totalWeight_nil : totalWeight [] = 0 := rfl

@[simp] theorem totalWeight_cons (r : Rating) (rs : List Rating) :
    totalWeight (r :: rs) = r.weight.toNat + totalWeight rs := rfl

@[simp] theorem totalWeight_append (as bs : List Rating) :
    totalWeight (as ++ bs) = totalWeight as + totalWeight bs := by
  induction as with
  | nil => simp
  | cons a as ih => simp [ih, Nat.add_assoc]

@[simp] theorem weightedSum_nil : weightedSum [] = 0 := rfl

@[simp] theorem weightedSum_cons (r : Rating) (rs : List Rating) :
    weightedSum (r :: rs) = r.weight.toNat * r.score.toNat + weightedSum rs := rfl

@[simp] theorem weightedSum_append (as bs : List Rating) :
    weightedSum (as ++ bs) = weightedSum as + weightedSum bs := by
  induction as with
  | nil => simp
  | cons a as ih => simp [ih, Nat.add_assoc]

/-- The quotient rounded to the nearest whole number, a half upwards; nothing divided by nothing
is zero. -/
def roundedQuotient (num den : Nat) : Nat := (2 * num + den) / (2 * den)

/-- The score of a judgement. The average never exceeds the largest score, so it fits in a byte. -/
def score (rs : List Rating) : UInt8 :=
  let q := roundedQuotient (weightedSum rs) (totalWeight rs)
  if q < 256 then q.toUInt8 else 255

end StageGate.Clarity
