import StageGate.Json.Basic

/-!
Writing JSON text, on several lines: two blanks for each level of indentation, a blank behind each
colon, and brackets without content on one line. In strings, quotes, backslashes and controls are
escaped and nothing else is.
-/

set_option autoImplicit false

namespace StageGate.Json

def hexDigit (n : Nat) : Char := Nat.digitChar n

def writeChar (c : Char) : List Char :=
  match c with
  | '"' => ['\\', '"']
  | '\\' => ['\\', '\\']
  | '\x08' => ['\\', 'b']
  | '\x0c' => ['\\', 'f']
  | '\n' => ['\\', 'n']
  | '\r' => ['\\', 'r']
  | '\t' => ['\\', 't']
  | c =>
    if c.toNat < 0x20 then
      ['\\', 'u', '0', '0', hexDigit (c.toNat / 16), hexDigit (c.toNat % 16)]
    else [c]

def writeString (s : String) : List Char := '"' :: s.toList.flatMap writeChar ++ ['"']

def writeInt (n : Int) : List Char :=
  if n < 0 then '-' :: Nat.toDigits 10 n.natAbs else Nat.toDigits 10 n.natAbs

def newLine (level : Nat) : List Char := '\n' :: List.replicate (2 * level) ' '

mutual

/-- The text of a value that starts on a line of this level. -/
def write (level : Nat) : Json → List Char
  | null => ['n', 'u', 'l', 'l']
  | bool true => ['t', 'r', 'u', 'e']
  | bool false => ['f', 'a', 'l', 's', 'e']
  | int n => writeInt n
  | real x => (realStyle.write x).toList
  | string s => writeString s
  | array [] => ['[', ']']
  | array (x :: xs) =>
    '[' :: newLine (level + 1) ++ write (level + 1) x ++ writeElements level xs
  | object [] => ['\x7b', '\x7d']
  | object ((k, v) :: fs) =>
    '\x7b' :: newLine (level + 1) ++ writeString k ++ [':', ' '] ++ write (level + 1) v ++
      writeFields level fs

/-- The elements after the first one, with the closing bracket. -/
def writeElements (level : Nat) : List Json → List Char
  | [] => newLine level ++ [']']
  | x :: xs => ',' :: newLine (level + 1) ++ write (level + 1) x ++ writeElements level xs

def writeFields (level : Nat) : List (String × Json) → List Char
  | [] => newLine level ++ ['\x7d']
  | (k, v) :: fs =>
    ',' :: newLine (level + 1) ++ writeString k ++ [':', ' '] ++ write (level + 1) v ++
      writeFields level fs

end

def pretty (v : Json) : String := .ofList (write 0 v)

end StageGate.Json
