import StageGate.Clarity.Score

/-!
The clarity score as it is worked out in words of 64 bits, rating by rating. A sum or a product that
outgrows a word, a division by zero, and a quotient that does not fit into a byte give no score at all.
-/

set_option autoImplicit false

namespace StageGate.Clarity

namespace Word

def ofNat? (n : Nat) : Option UInt64 := if n < UInt64.size then some n.toUInt64 else none

def add? (a b : UInt64) : Option UInt64 := ofNat? (a.toNat + b.toNat)

def mul? (a b : UInt64) : Option UInt64 := ofNat? (a.toNat * b.toNat)

def div? (a b : UInt64) : Option UInt64 := if b = 0 then none else some (a / b)

def toByte? (a : UInt64) : Option UInt8 := if a < 256 then some a.toUInt8 else none

end Word

open Word

@[ext] structure Sums where
  weighted : UInt64
  total : UInt64
  deriving DecidableEq, Repr

def Sums.add? (s : Sums) (r : Rating) : Option Sums := do
  let weight := r.weight.toUInt64
  let weighted ← Word.add? s.weighted (← mul? weight r.score.toUInt64)
  let total ← Word.add? s.total weight
  return { weighted, total }

/-- The average of the sums, rounded; without any weight it is zero. -/
def Sums.score? (s : Sums) : Option UInt8 := do
  if s.total = 0 then return 0
  let num ← Word.add? (← mul? 2 s.weighted) s.total
  toByte? (← div? num (← mul? 2 s.total))

def sums? (rs : List Rating) : Option Sums := rs.foldlM Sums.add? ⟨0, 0⟩

def wordScore? (rs : List Rating) : Option UInt8 := do (← sums? rs).score?

end StageGate.Clarity
