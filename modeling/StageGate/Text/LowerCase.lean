import StageGate.Text.CaseTable
import StageGate.Text.Range

/-!
Lower case of a whole text, by the full mapping of Unicode: most characters map by themselves, the
dotted capital I becomes two characters, and a capital sigma is written as a final sigma where it
ends a word.
-/

set_option autoImplicit false

namespace StageGate.Text

def CaseRun.covers (r : CaseRun) (n : Nat) : Bool :=
  r.first ≤ n && n ≤ r.last && (n - r.first) % r.stride == 0

def lowerChar (c : Char) : List Char :=
  if c.toNat = 0x130 then ['i', Char.ofNat 0x307]
  else match caseRuns.find? (·.covers c.toNat) with
    | some r => [Char.ofNat (c.toNat + r.shift).toNat]
    | none => [c]

def isCaseIgnorable (c : Char) : Bool := inRanges caseIgnorableRanges c

/-- Letters that have or are a case, those that are also ignorable left out. -/
def isCased (c : Char) : Bool := inRanges casedRanges c

/-- The first character that counts, in this direction, is a cased letter. -/
def meetsCased (cs : List Char) : Bool :=
  match cs.dropWhile isCaseIgnorable with
  | [] => false
  | c :: _ => isCased c

/-- A sigma ends a word when a cased letter stands before it and none after it. The text before it
is given backwards. -/
def endsWord (before after : List Char) : Bool := meetsCased before && !meetsCased after

def lowerFrom (before : List Char) : List Char → List Char
  | [] => []
  | c :: cs =>
    let small :=
      if c = 'Σ' then [if endsWord before cs then 'ς' else 'σ'] else lowerChar c
    small ++ lowerFrom (c :: before) cs

def lower (cs : List Char) : List Char := lowerFrom [] cs

end StageGate.Text
