import StageGate.Decimal.Binary64

/-!
The shortest decimal of a double-precision magnitude: among all decimals that round to it, the one on
the coarsest grid of powers of ten, and on that grid the nearest to it. A `Style` then says how the
digits are set out.
-/

set_option autoImplicit false

namespace StageGate.Decimal

/-- The number `digits * 10 ^ power`. -/
structure Scaled where
  digits : Nat
  power : Int
  deriving DecidableEq, Repr

namespace Binary64

/-- The ends of the interval that rounds to a magnitude, and the magnitude itself, in quarters of its
last place. -/
def quarters (x : Binary64) : Nat × Nat × Nat :=
  let low := if x.mantissa = leastMantissa ∧ leastExponent < x.exponent then 1 else 2
  (4 * x.mantissa - low, 4 * x.mantissa, 4 * x.mantissa + 2)

/-- The decimal exponent of the first digit, up to one place too high. -/
def decimalExponent (x : Binary64) : Int :=
  let whole := x.numerator / x.denominator
  if 0 < whole then (Nat.toDigits 10 whole).length
  else 1 - (Nat.toDigits 10 (x.denominator / x.numerator)).length

/-- The candidate on the grid of a power of ten: the nearer of the two grid points around the
magnitude that round to it. -/
def onGrid? (x : Binary64) (power : Int) : Option Scaled :=
  let (low, mid, high) := x.quarters
  -- one grid step is `step` of the units in which the ends and the middle are counted
  let unit (n : Nat) : Nat := n * Nat.pow 2 (x.exponent - 2).toNat * Nat.pow 10 (-power).toNat
  let step := Nat.pow 10 power.toNat * Nat.pow 2 (2 - x.exponent).toNat
  let inside (d : Nat) : Bool :=
    if x.mantissa % 2 = 0 then unit low ≤ d * step && d * step ≤ unit high
    else unit low < d * step && d * step < unit high
  let below := unit mid / step
  let above := below + 1
  match inside below, inside above with
  | true, true =>
    if unit mid - below * step ≤ above * step - unit mid then some ⟨below, power⟩
    else some ⟨above, power⟩
  | true, false => some ⟨below, power⟩
  | false, true => some ⟨above, power⟩
  | false, false => none

def shortest (x : Binary64) : Scaled :=
  if x.mantissa = 0 then ⟨0, 0⟩
  else
    let top := x.decimalExponent
    ((List.range 20).findSome? fun (i : Nat) => x.onGrid? (top - i)).getD ⟨0, 0⟩

end Binary64

/-- How a decimal is set out: between the two exponents of its first digit it is written positionally,
beyond them with an exponent. -/
structure Style where
  leastPositional : Int
  greatestPositional : Int

def positional (digits : List Char) (power : Int) : List Char :=
  let point := digits.length + power
  if 0 ≤ power then digits ++ List.replicate power.toNat '0' ++ ['.', '0']
  else if 0 < point then digits.take point.toNat ++ '.' :: digits.drop point.toNat
  else ['0', '.'] ++ List.replicate (-point).toNat '0' ++ digits

def scientific (digits : List Char) (exponent : Int) : List Char :=
  let fraction := match digits.drop 1 with
    | [] => []
    | ds => '.' :: ds
  digits.take 1 ++ fraction ++ ['e', if exponent < 0 then '-' else '+'] ++
    Nat.toDigits 10 exponent.natAbs

def Style.write (style : Style) (x : Double) : String :=
  let s := x.magnitude.shortest
  let digits := Nat.toDigits 10 s.digits
  let exponent := digits.length - 1 + s.power
  let text :=
    if style.leastPositional ≤ exponent ∧ exponent ≤ style.greatestPositional then
      positional digits s.power
    else scientific digits exponent
  .ofList (if x.negative then '-' :: text else text)

end StageGate.Decimal
