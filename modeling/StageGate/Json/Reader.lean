import StageGate.Json.Number
import StageGate.Text.Front

/-!
Reading JSON text. Every reader takes a value off the front of a text and gives back the rest.
Arrays and objects may stand in each other up to a fixed depth, which is also what bounds the
recursion; the members of one array are no more than the characters of the text.
-/

set_option autoImplicit false

namespace StageGate.Json

open Text (Rest push hexValue?)

def isSpace (c : Char) : Bool := c = ' ' || c = '\t' || c = '\n' || c = '\r'

def skipSpace (cs : List Char) : List Char := cs.dropWhile isSpace

def hexNumber? (a b c d : Char) : Option Nat := do
  return 4096 * (← hexValue? a) + 256 * (← hexValue? b) + 16 * (← hexValue? c) + (← hexValue? d)

def escaped? : Char → Option Char
  | '"' => some '"'
  | '\\' => some '\\'
  | '/' => some '/'
  | 'b' => some '\x08'
  | 'f' => some '\x0c'
  | 'n' => some '\n'
  | 'r' => some '\r'
  | 't' => some '\t'
  | _ => none

def isHighSurrogate (n : Nat) : Bool := 0xD800 ≤ n && n < 0xDC00

def isLowSurrogate (n : Nat) : Bool := 0xDC00 ≤ n && n < 0xE000

def joinSurrogates (high low : Nat) : Char :=
  Char.ofNat (0x10000 + (high - 0xD800) * 0x400 + (low - 0xDC00))

/-- The characters of a string up to its closing quote. Controls must be escaped, and surrogates must
come in pairs. -/
def stringBody? : List Char → Option (List Char × List Char)
  | [] => none
  | '"' :: cs => some ([], cs)
  | '\\' :: 'u' :: a :: b :: c :: d :: cs =>
    match hexNumber? a b c d with
    | none => none
    | some n =>
      if isLowSurrogate n then none
      else if isHighSurrogate n then
        match cs with
        | '\\' :: 'u' :: e :: f :: g :: h :: rest =>
          match hexNumber? e f g h with
          | none => none
          | some m => if isLowSurrogate m then push (joinSurrogates n m) (stringBody? rest) else none
        | _ => none
      else push (Char.ofNat n) (stringBody? cs)
  | '\\' :: c :: cs =>
    match escaped? c with
    | none => none
    | some e => push e (stringBody? cs)
  | c :: cs => if c.toNat < 0x20 then none else push c (stringBody? cs)

def string? : List Char → Option (String × List Char)
  | '"' :: cs => (stringBody? cs).map fun (s, rest) => (.ofList s, rest)
  | _ => none

/-- Members separated by commas up to the closing bracket, at most `n` of them. -/
def members? {α : Type} (member? : List Char → Option (α × List Char)) (closing : Char) :
    Nat → List Char → Option (List α × List Char)
  | 0, _ => none
  | n + 1, cs => do
    let (x, cs) ← member? cs
    match skipSpace cs with
    | ',' :: cs => (members? member? closing n cs).map fun (xs, rest) => (x :: xs, rest)
    | c :: cs => if c = closing then some ([x], cs) else none
    | [] => none

def bracketed? {α : Type} (member? : List Char → Option (α × List Char)) (closing : Char)
    (cs : List Char) : Option (List α × List Char) :=
  match skipSpace cs with
  | [] => none
  | c :: rest => if c = closing then some ([], rest) else members? member? closing cs.length cs

def field {α : Type} (value? : List Char → Option (α × List Char)) (cs : List Char) :
    Option ((String × α) × List Char) := do
  let (key, cs) ← string? (skipSpace cs)
  match skipSpace cs with
  | ':' :: cs => (value? cs).map fun (v, rest) => ((key, v), rest)
  | _ => none

/-- The value at the front of a text, after blanks; brackets may be opened `depth` deep. -/
def value? (depth : Nat) (cs : List Char) : Option (Json × List Char) :=
  match skipSpace cs with
  | 'n' :: 'u' :: 'l' :: 'l' :: rest => some (.null, rest)
  | 't' :: 'r' :: 'u' :: 'e' :: rest => some (.bool true, rest)
  | 'f' :: 'a' :: 'l' :: 's' :: 'e' :: rest => some (.bool false, rest)
  | '"' :: rest => (string? ('"' :: rest)).map fun (s, rest) => (.string s, rest)
  | '[' :: rest =>
    match depth with
    | 0 => none
    | d + 1 => (bracketed? (value? d) ']' rest).map fun (xs, rest) => (.array xs, rest)
  | '\x7b' :: rest =>
    match depth with
    | 0 => none
    | d + 1 => (bracketed? (field (value? d)) '\x7d' rest).map fun (fs, rest) => (ofFields fs, rest)
  | rest => number? rest

def maxDepth : Nat := 127

def parse? (text : String) : Option Json :=
  match value? maxDepth text.toList with
  | some (v, rest) => if (skipSpace rest).isEmpty then some v else none
  | none => none

end StageGate.Json
