/-!
Finite double-precision magnitudes as exact numbers. A magnitude is a mantissa times a power of two, and
every operation rounds the exact result to the nearest one, halves to an even mantissa. A result too
large for the format is none.
-/

set_option autoImplicit false

namespace StageGate.Decimal

/-- The number `mantissa * 2 ^ exponent`. -/
structure Binary64 where
  mantissa : Nat
  exponent : Int
  deriving DecidableEq, Repr

namespace Binary64

/-- The exponent of the least magnitude above zero. -/
def leastExponent : Int := -1074

def greatestExponent : Int := 971

def leastMantissa : Nat := 0x10000000000000

def zero : Binary64 := ⟨0, leastExponent⟩

def numerator (x : Binary64) : Nat := x.mantissa * Nat.pow 2 x.exponent.toNat

def denominator (x : Binary64) : Nat := Nat.pow 2 (-x.exponent).toNat

def roundHalfEven (num den : Nat) : Nat :=
  let q := num / den
  let twice := 2 * (num % den)
  if twice < den then q else if den < twice then q + 1 else q + q % 2

/-- The quotient in units of a power of two, as a fraction. -/
def inUnits (num den : Nat) (e : Int) : Nat × Nat :=
  (num * Nat.pow 2 (-e).toNat, den * Nat.pow 2 e.toNat)

/-- The power of two in whose units the quotient has a whole part of 53 bits, or the least one. -/
def unitExponent (num den : Nat) : Int :=
  let guess := max ((num.log2 : Int) - den.log2 - 52) leastExponent
  let (n, d) := inUnits num den guess
  let whole := n / d
  if leastMantissa * 2 ≤ whole then guess + 1
  else if whole < leastMantissa ∧ leastExponent < guess then guess - 1
  else guess

def nearest? (num den : Nat) : Option Binary64 :=
  if num = 0 then some zero
  else
    let e := unitExponent num den
    let (n, d) := inUnits num den e
    let m := roundHalfEven n d
    let (m, e) := if m = leastMantissa * 2 then (leastMantissa, e + 1) else (m, e)
    if greatestExponent < e then none else some ⟨m, e⟩

def ofNat? (n : Nat) : Option Binary64 := nearest? n 1

def mul? (x y : Binary64) : Option Binary64 :=
  nearest? (x.numerator * y.numerator) (x.denominator * y.denominator)

def div? (x y : Binary64) : Option Binary64 :=
  nearest? (x.numerator * y.denominator) (x.denominator * y.numerator)

end Binary64

/-- A finite double; zero has both signs. -/
structure Double where
  negative : Bool
  magnitude : Binary64
  deriving DecidableEq, Repr

end StageGate.Decimal
