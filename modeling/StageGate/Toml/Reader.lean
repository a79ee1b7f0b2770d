import StageGate.Toml.Document
import StageGate.Toml.Scalar
import StageGate.Toml.Text

/-!
Reading TOML text. Every reader takes a part off the front of a text and gives back the rest; loops are
bounded by the length of the text, and brackets may stand in each other up to a fixed depth.
-/

set_option autoImplicit false

namespace StageGate.Toml

open Text (Rest)

/-- Skips blanks, line ends and comments. A comment may hold no controls but tabs. -/
def skipFill? (inComment : Bool) : List Char → Option Rest
  | [] => some []
  | '\r' :: '\n' :: cs => skipFill? false cs
  | c :: cs =>
    if c = '\n' then skipFill? false cs
    else if inComment then if isPlain c then skipFill? true cs else none
    else if isBlank c then skipFill? false cs
    else if c = '#' then skipFill? true cs
    else some (c :: cs)

def lineEnd? (cs : List Char) : Option Rest :=
  match skipBlanks cs with
  | [] => some []
  | '\n' :: rest => some rest
  | '\r' :: '\n' :: rest => some rest
  | '#' :: rest =>
    match rest.dropWhile isPlain with
    | [] => some []
    | '\n' :: rest => some rest
    | '\r' :: '\n' :: rest => some rest
    | _ => none
  | _ => none

def isKeyChar (c : Char) : Bool := c.isAlphanum || c = '_' || c = '-'

def key? (cs : List Char) : Option (String × Rest) :=
  match cs.takeWhile isKeyChar with
  | [] => quoted? cs
  | ks => some (.ofList ks, cs.dropWhile isKeyChar)

def keys? : Nat → List Char → Option (List String × Rest)
  | 0, _ => none
  | n + 1, cs => do
    let (k, cs) ← key? cs
    match skipBlanks cs with
    | '.' :: cs => (keys? n (skipBlanks cs)).map fun (ks, rest) => (k :: ks, rest)
    | rest => some ([k], rest)

def dottedKey? (cs : List Char) : Option (List String × Rest) := keys? cs.length cs

def isScalarChar (c : Char) : Bool :=
  c.isAlphanum || c = '_' || c = '+' || c = '-' || c = '.' || c = ':'

/-- The text of a value without quotes and brackets. A blank may stand in it between a date and a time
of day. -/
def scalarText (cs : List Char) : List Char × Rest :=
  let (word, rest) := cs.span isScalarChar
  match date? word, rest with
  | some [], ' ' :: d :: more =>
    if d.isDigit then
      let (time, rest) := (d :: more).span isScalarChar
      (word ++ ' ' :: time, rest)
    else (word, rest)
  | _, _ => (word, rest)

/-- What stands between brackets, separated by commas; one comma may stand behind the last. -/
def items? {α : Type} (item? : List Char → Option (α × Rest)) (closing : Char) :
    Nat → List Char → Option (List α × Rest)
  | 0, _ => none
  | n + 1, cs => do
    match ← skipFill? false cs with
    | [] => none
    | c :: rest =>
      if c = closing then some ([], rest)
      else
        let (x, cs) ← item? (c :: rest)
        match ← skipFill? false cs with
        | ',' :: cs => (items? item? closing n cs).map fun (xs, rest) => (x :: xs, rest)
        | c :: rest => if c = closing then some ([x], rest) else none
        | [] => none

def pair? (value? : List Char → Option (Toml × Rest)) (cs : List Char) :
    Option ((List String × Toml) × Rest) := do
  let (keys, cs) ← dottedKey? cs
  match skipBlanks cs with
  | '=' :: cs => (value? (skipBlanks cs)).map fun (v, rest) => ((keys, v), rest)
  | _ => none

def value? (depth : Nat) (cs : List Char) : Option (Toml × Rest) :=
  match cs with
  | [] => none
  | c :: rest =>
    if c = '"' ∨ c = '\'' then (string? cs).map fun (s, rest) => (.string s, rest)
    else if c = '[' then
      match depth with
      | 0 => none
      | d + 1 => (items? (value? d) ']' cs.length rest).map fun (xs, rest) => (.array xs, rest)
    else if c = '\x7b' then
      match depth with
      | 0 => none
      | d + 1 => do
        let (pairs, rest) ← items? (pair? (value? d)) '\x7d' cs.length rest
        return (.table (← ofPairs pairs), rest)
    else
      let (text, rest) := scalarText cs
      (scalar? text).map fun v => (v, rest)

def maxDepth : Nat := 80

def header? (closing : List Char) (cs : List Char) : Option (List String × Rest) := do
  let (keys, cs) ← dottedKey? (skipBlanks cs)
  let cs := skipBlanks cs
  if closing.isPrefixOf cs then some (keys, cs.drop closing.length) else none

def statement? : List Char → Option (Statement × Rest)
  | '[' :: '[' :: cs => (header? [']', ']'] cs).map fun (keys, rest) => (.arrayHeader keys, rest)
  | '[' :: cs => (header? [']'] cs).map fun (keys, rest) => (.header keys, rest)
  | cs => (pair? (value? maxDepth) cs).map fun ((keys, v), rest) => (.pair keys v, rest)

def statements? : Nat → List Char → Option (List Statement)
  | 0, _ => none
  | n + 1, cs => do
    match ← skipFill? false cs with
    | [] => some []
    | cs =>
      let (s, cs) ← statement? cs
      (statements? n (← lineEnd? cs)).map (s :: ·)

def skipByteOrderMark : List Char → List Char
  | '\uFEFF' :: cs => cs
  | cs => cs

def parse? (text : String) : Option (List (String × Toml)) := do
  let cs := skipByteOrderMark text.toList
  ofStatements (← statements? (cs.length + 1) cs)

end StageGate.Toml
