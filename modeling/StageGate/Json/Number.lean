import StageGate.Json.Basic

/-!
Numbers in JSON text. A numeral without fraction and exponent is a whole number as long as it fits in
64 bits; minus zero and everything else is a double. Only the digits that fit in 64 bits count for a
double, and it is scaled by a power of ten in double precision.
-/

set_option autoImplicit false

namespace StageGate.Json

/-- A numeral in its parts; the lists hold digits only. -/
structure Numeral where
  negative : Bool
  whole : List Char
  fraction : Option (List Char)
  exponent : Option (Bool × List Char)
  deriving Repr

/-- Takes in digits while the number stays below 2 ^ 64, and gives back those left over. -/
def absorb (n : Nat) : List Char → Nat × List Char
  | [] => (n, [])
  | d :: ds =>
    let m := 10 * n + (d.toNat - 48)
    if m < 0x10000000000000000 then absorb m ds else (n, d :: ds)

def powerOfTen (e : Nat) : Decimal.Binary64 := (Decimal.Binary64.ofNat? (Nat.pow 10 e)).getD .zero

/-- A number below 2 ^ 64 times a power of ten, in double precision; none if it is too large. -/
def scale? (n : Nat) (e : Int) : Option Decimal.Binary64 := do
  let x ← Decimal.Binary64.ofNat? n
  if 0 ≤ e then
    if e ≤ 308 then x.mul? (powerOfTen e.toNat) else if n = 0 then some x else none
  else if -308 ≤ e then x.div? (powerOfTen (-e).toNat)
  else if -616 ≤ e then (← x.div? (powerOfTen 308)).div? (powerOfTen (-e - 308).toNat)
  else some .zero

/-- The greatest exponent that is read; a larger one stands for infinity or nothing. -/
def exponentLimit : Nat := 0x7FFFFFFF

namespace Numeral

def real? (n : Numeral) : Option Decimal.Double := do
  let (significand, dropped) := absorb 0 n.whole
  let (significand, places) := match n.fraction with
    | none => (significand, 0)
    | some ds =>
      let (s, rest) := absorb significand ds
      (s, ds.length - rest.length)
  let shift : Int := (dropped.length : Int) - places
  let magnitude ← match n.exponent with
    | none => scale? significand shift
    | some (down, ds) =>
      let e := Nat.ofDigitChars 10 ds 0
      if exponentLimit < e then
        if significand ≠ 0 ∧ !down then none else some .zero
      else scale? significand (if down then shift - e else shift + e)
  return ⟨n.negative, magnitude⟩

def value? (n : Numeral) : Option Json :=
  match n.fraction, n.exponent with
  | none, none =>
    let k := Nat.ofDigitChars 10 n.whole 0
    if n.negative then
      if 0 < k ∧ k ≤ 0x8000000000000000 then some (.int (-k)) else n.real?.map .real
    else if k < 0x10000000000000000 then some (.int k) else n.real?.map .real
  | _, _ => n.real?.map .real

end Numeral

def digits (cs : List Char) : List Char × List Char := cs.span Char.isDigit

def whole? (cs : List Char) : Option (List Char × List Char) :=
  match digits cs with
  | ([], _) => none
  | ('0' :: _ :: _, _) => none
  | r => some r

def fraction? : List Char → Option (Option (List Char) × List Char)
  | '.' :: cs =>
    match digits cs with
    | ([], _) => none
    | (ds, rest) => some (some ds, rest)
  | cs => some (none, cs)

def exponentDigits? (down : Bool) (cs : List Char) :
    Option (Option (Bool × List Char) × List Char) :=
  match digits cs with
  | ([], _) => none
  | (ds, rest) => some (some (down, ds), rest)

def exponent? : List Char → Option (Option (Bool × List Char) × List Char)
  | c :: cs =>
    if c = 'e' ∨ c = 'E' then
      match cs with
      | '+' :: ds => exponentDigits? false ds
      | '-' :: ds => exponentDigits? true ds
      | ds => exponentDigits? false ds
    else some (none, c :: cs)
  | [] => some (none, [])

def numeral? (negative : Bool) (cs : List Char) : Option (Numeral × List Char) := do
  let (w, cs) ← whole? cs
  let (f, cs) ← fraction? cs
  let (e, cs) ← exponent? cs
  return (⟨negative, w, f, e⟩, cs)

def number? (cs : List Char) : Option (Json × List Char) := do
  let (n, rest) ← match cs with
    | '-' :: ds => numeral? true ds
    | ds => numeral? false ds
  return (← n.value?, rest)

end StageGate.Json
