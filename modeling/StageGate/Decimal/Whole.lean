/-!
Whole numbers in decimal: the digits at the front of a text, and the numbers that fit in 64 bits.
-/

set_option autoImplicit false

namespace StageGate.Decimal

def isInt64 (n : Int) : Bool := -0x8000000000000000 ≤ n && n < 0x8000000000000000

def leadingDigits? (cs : List Char) : Option Nat :=
  match cs.takeWhile Char.isDigit with
  | [] => none
  | ds => some (Nat.ofDigitChars 10 ds 0)

end StageGate.Decimal
