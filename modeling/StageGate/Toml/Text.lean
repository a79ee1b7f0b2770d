import StageGate.Text.Front

/-!
The four kinds of TOML strings: with or without escapes, on one line or on several. Every reader starts
behind the opening quotes and gives back what stands behind the closing ones.
-/

set_option autoImplicit false

namespace StageGate.Toml

open Text (Rest push hexValue?)

/-- Characters that may stand in strings and comments as they are. -/
def isPlain (c : Char) : Bool := c = '\t' || (0x20 ≤ c.toNat && c.toNat ≠ 0x7F)

def isBlank (c : Char) : Bool := c = ' ' || c = '\t'

def skipBlanks (cs : List Char) : List Char := cs.dropWhile isBlank

def escaped? : Char → Option Char
  | 'b' => some '\x08'
  | 't' => some '\t'
  | 'n' => some '\n'
  | 'f' => some '\x0c'
  | 'r' => some '\r'
  | 'e' => some '\x1b'
  | '"' => some '"'
  | '\\' => some '\\'
  | _ => none

def codeLength? : Char → Option Nat
  | 'x' => some 2
  | 'u' => some 4
  | 'U' => some 8
  | _ => none

/-- Where the reader of a string with escapes stands. -/
inductive Position where
  | text
  /-- Behind a backslash. -/
  | escape
  /-- Behind a backslash and blanks: the line must end. -/
  | lineEnd
  /-- On the lines after it: blanks and line ends are left out. -/
  | gap
  /-- In a code, with so many digits to come. -/
  | code (left acc : Nat)

def char? (n : Nat) : Option Char := if n.isValidChar then some (Char.ofNat n) else none

def pushOption (c : Option Char) (r : Option (List Char × Rest)) : Option (List Char × Rest) :=
  match c with
  | some c => push c r
  | none => none

def basic? : Position → List Char → Option (List Char × Rest)
  | _, [] => none
  | .code left acc, c :: cs =>
    match hexValue? c with
    | none => none
    | some v =>
      let acc := 16 * acc + v
      if left ≤ 1 then pushOption (char? acc) (basic? .text cs) else basic? (.code (left - 1) acc) cs
  | .escape, c :: cs =>
    match codeLength? c with
    | some n => basic? (.code n 0) cs
    | none => pushOption (escaped? c) (basic? .text cs)
  | _, '"' :: cs => some ([], cs)
  | _, '\\' :: cs => basic? .escape cs
  | _, c :: cs => if isPlain c then push c (basic? .text cs) else none

/-- A string with escapes on several lines. Up to two quotes may stand before the closing ones. -/
def multilineBasic? : Position → List Char → Option (List Char × Rest)
  | _, [] => none
  | .code left acc, c :: cs =>
    match hexValue? c with
    | none => none
    | some v =>
      let acc := 16 * acc + v
      if left ≤ 1 then pushOption (char? acc) (multilineBasic? .text cs)
      else multilineBasic? (.code (left - 1) acc) cs
  | .escape, '\r' :: '\n' :: cs => multilineBasic? .gap cs
  | .escape, c :: cs =>
    if c = '\n' then multilineBasic? .gap cs
    else if isBlank c then multilineBasic? .lineEnd cs
    else match codeLength? c with
      | some n => multilineBasic? (.code n 0) cs
      | none => pushOption (escaped? c) (multilineBasic? .text cs)
  | .lineEnd, '\r' :: '\n' :: cs => multilineBasic? .gap cs
  | .lineEnd, c :: cs =>
    if c = '\n' then multilineBasic? .gap cs
    else if isBlank c then multilineBasic? .lineEnd cs
    else none
  | _, '"' :: '"' :: '"' :: '"' :: '"' :: cs => some (['"', '"'], cs)
  | _, '"' :: '"' :: '"' :: '"' :: cs => some (['"'], cs)
  | _, '"' :: '"' :: '"' :: cs => some ([], cs)
  | .gap, '\r' :: '\n' :: cs => multilineBasic? .gap cs
  | .gap, c :: cs =>
    if c = '\n' ∨ isBlank c then multilineBasic? .gap cs
    else if c = '\\' then multilineBasic? .escape cs
    else if isPlain c then push c (multilineBasic? .text cs)
    else none
  | .text, '\r' :: '\n' :: cs => push '\r' (push '\n' (multilineBasic? .text cs))
  | .text, c :: cs =>
    if c = '\\' then multilineBasic? .escape cs
    else if c = '\n' ∨ isPlain c then push c (multilineBasic? .text cs)
    else none

def literal? : List Char → Option (List Char × Rest)
  | [] => none
  | '\'' :: cs => some ([], cs)
  | c :: cs => if isPlain c then push c (literal? cs) else none

def multilineLiteral? : List Char → Option (List Char × Rest)
  | [] => none
  | '\'' :: '\'' :: '\'' :: '\'' :: '\'' :: cs => some (['\'', '\''], cs)
  | '\'' :: '\'' :: '\'' :: '\'' :: cs => some (['\''], cs)
  | '\'' :: '\'' :: '\'' :: cs => some ([], cs)
  | '\r' :: '\n' :: cs => push '\r' (push '\n' (multilineLiteral? cs))
  | c :: cs => if c = '\n' ∨ isPlain c then push c (multilineLiteral? cs) else none

/-- The line end right behind the opening quotes does not count. -/
def skipFirstLineEnd : List Char → List Char
  | '\n' :: cs => cs
  | '\r' :: '\n' :: cs => cs
  | cs => cs

def quoted? : List Char → Option (String × Rest)
  | '"' :: cs => (basic? .text cs).map fun (s, rest) => (.ofList s, rest)
  | '\'' :: cs => (literal? cs).map fun (s, rest) => (.ofList s, rest)
  | _ => none

def string? : List Char → Option (String × Rest)
  | '"' :: '"' :: '"' :: cs =>
    (multilineBasic? .text (skipFirstLineEnd cs)).map fun (s, rest) => (.ofList s, rest)
  | '\'' :: '\'' :: '\'' :: cs =>
    (multilineLiteral? (skipFirstLineEnd cs)).map fun (s, rest) => (.ofList s, rest)
  | cs => quoted? cs

end StageGate.Toml
