/-!
Readers of the front of a text. A reader takes a part off the front and gives back what it read with
the rest of the text.
-/

set_option autoImplicit false

namespace StageGate.Text

abbrev Rest := List Char

def push (c : Char) (r : Option (List Char × Rest)) : Option (List Char × Rest) :=
  r.map fun (s, rest) => (c :: s, rest)

def hexValue? (c : Char) : Option Nat :=
  if '0' ≤ c ∧ c ≤ '9' then some (c.toNat - 48)
  else if 'a' ≤ c ∧ c ≤ 'f' then some (c.toNat - 87)
  else if 'A' ≤ c ∧ c ≤ 'F' then some (c.toNat - 55)
  else none

end StageGate.Text
