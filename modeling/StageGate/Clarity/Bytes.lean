import StageGate.Decimal.Whole
import StageGate.Text.Blank

/-!
The whole number at the front of a text as it is read from the bytes of the text. The text is cut behind
its sign and behind its digits; a cut within a character or behind the end would stop the program. The
number is put together in a word of 64 bits, digit by digit; one that outgrows the word is none.
-/

set_option autoImplicit false

namespace StageGate.Clarity.Bytes

/-! ### Cuts -/

/-- What stands from a byte on; none where the text cannot be cut. -/
def cutFrom? (s : String) (n : Nat) : Option String :=
  if h : String.Pos.Raw.IsValid s ⟨n⟩ then some (s.sliceFrom (s.pos ⟨n⟩ h)).copy else none

def cutTo? (s : String) (n : Nat) : Option String :=
  if h : String.Pos.Raw.IsValid s ⟨n⟩ then some (s.sliceTo (s.pos ⟨n⟩ h)).copy else none

def bytes (s : String) : List UInt8 := s.toList.flatMap String.utf8EncodeChar

def plus : UInt8 := 43

def minus : UInt8 := 45

def isDigit (b : UInt8) : Bool := 48 ≤ b && b ≤ 57

def isSign (c : Char) : Bool := c = '+' || c = '-'

def signLength (s : String) : Nat := if s.toList.head?.any isSign then 1 else 0

def digitLength (s : String) : Nat := ((bytes s).takeWhile isDigit).length

/-! ### Numbers of 64 bits with a sign -/

def ofInt? (n : Int) : Option Int64 := if Decimal.isInt64 n then some (Int64.ofInt n) else none

def add? (a b : Int64) : Option Int64 := ofInt? (a.toInt + b.toInt)

def sub? (a b : Int64) : Option Int64 := ofInt? (a.toInt - b.toInt)

def mul? (a b : Int64) : Option Int64 := ofInt? (a.toInt * b.toInt)

def digit? (b : UInt8) : Option Int64 :=
  if isDigit b then some (Int64.ofNat (b.toNat - 48)) else none

/-- Goes on with a number by one digit; a number with a minus grows downwards. -/
def shift? (join : Int64 → Int64 → Option Int64) (n : Int64) (b : UInt8) : Option Int64 := do
  join (← mul? n 10) (← digit? b)

def number? (bs : List UInt8) : Option Int64 :=
  if bs = [] ∨ bs = [plus] ∨ bs = [minus] then none
  else if bs.head? = some minus then bs.tail.foldlM (shift? sub?) 0
  else if bs.head? = some plus then bs.tail.foldlM (shift? add?) 0
  else bs.foldlM (shift? add?) 0

/-! ### The number at the front -/

def front (s : String) : String := .ofList (Text.trimStart s.toList)

/-- None at all would be a cut that stops the program. -/
def leadingInteger? (s : String) : Option (Option Int64) := do
  let signed := signLength (front s)
  let digits := digitLength (← cutFrom? (front s) signed)
  if digits = 0 then return none
  return number? (bytes (← cutTo? (front s) (signed + digits)))

end StageGate.Clarity.Bytes
