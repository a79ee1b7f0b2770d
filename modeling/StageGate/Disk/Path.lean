import StageGate.Text.Split

/-!
Paths as text. Joining keeps what is written, so a path in a message reads as its parts were given; the
steps of a path are its parts between slashes.
-/

set_option autoImplicit false

namespace StageGate

structure Path where
  text : String
  deriving DecidableEq, Repr

namespace Path

def isAbsolute (p : Path) : Bool := p.text.toList.head? = some '/'

/-- The path of a part below a folder. An absolute part stands for itself, and only where it is
missing a slash is put between the two. -/
def join (p : Path) (part : String) : Path :=
  if (Path.mk part).isAbsolute ∨ p.text = "" then ⟨part⟩
  else if p.text.toList.getLast? = some '/' then ⟨p.text ++ part⟩
  else ⟨p.text ++ "/" ++ part⟩

/-- The parts between slashes, empty ones included. -/
def steps (p : Path) : List String := (Text.split '/' p.text.toList).map String.ofList

def names (p : Path) : List String := p.steps.filter fun s => s ≠ "" ∧ s ≠ "."

def ofNames (isAbsolute : Bool) (names : List String) : Path :=
  let text := "/".intercalate names
  ⟨if isAbsolute then "/" ++ text else text⟩

/-- The folders above a path that have a name, the nearest one first. -/
def parents (p : Path) : List Path :=
  let ns := p.names
  (List.range (ns.length - 1)).map fun i => ofNames p.isAbsolute (ns.take (ns.length - 1 - i))

end Path

end StageGate
