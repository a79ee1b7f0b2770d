/-!
Text for a terminal. A line is made of spans, each in its own style; on a terminal without colours the
styles are left out.
-/

set_option autoImplicit false

namespace StageGate.Screen

inductive Colour where
  | green | yellow | blue | cyan
  deriving DecidableEq, Repr

def Colour.code : Colour → String
  | green => "32"
  | yellow => "33"
  | blue => "34"
  | cyan => "36"

structure Style where
  bold : Bool
  dim : Bool
  colour : Option Colour
  deriving DecidableEq, Repr

namespace Style

def plain : Style := ⟨false, false, none⟩

def codes (s : Style) : List String :=
  (if s.bold then ["1"] else []) ++ (if s.dim then ["2"] else []) ++
    s.colour.toList.map Colour.code

end Style

structure Span where
  style : Style
  text : String
  deriving DecidableEq, Repr

abbrev Line := List Span

def plain (text : String) : Span := ⟨.plain, text⟩

def bold (text : String) : Span := ⟨⟨true, false, none⟩, text⟩

def dim (text : String) : Span := ⟨⟨false, true, none⟩, text⟩

def coloured (colour : Colour) (text : String) : Span := ⟨⟨false, false, some colour⟩, text⟩

def boldColoured (colour : Colour) (text : String) : Span := ⟨⟨true, false, some colour⟩, text⟩

def escape : Char := '\x1b'

def begin (s : Style) : List Char := escape :: '[' :: (";".intercalate s.codes).toList ++ ['m']

def reset : List Char := [escape, '[', '0', 'm']

/-- A text that ends styles itself takes its own style up again after each such place. -/
def resume (start : List Char) : List Char → List Char
  | '\x1b' :: '[' :: '0' :: 'm' :: cs => reset ++ start ++ resume start cs
  | c :: cs => c :: resume start cs
  | [] => []

def Span.render (colours : Bool) (s : Span) : List Char :=
  if colours ∧ s.style ≠ .plain then
    begin s.style ++ resume (begin s.style) s.text.toList ++ reset
  else s.text.toList

def renderLine (colours : Bool) (line : Line) : List Char :=
  line.flatMap (·.render colours) ++ ['\n']

def render (colours : Bool) (lines : List Line) : String :=
  .ofList (lines.flatMap (renderLine colours))

def padRight (width : Nat) (text : String) : String :=
  text ++ String.ofList (List.replicate (width - text.length) ' ')

def repeated (n : Nat) (c : Char) : String := .ofList (List.replicate n c)

end StageGate.Screen
