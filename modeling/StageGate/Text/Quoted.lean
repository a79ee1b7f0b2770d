import StageGate.Text.Range
import StageGate.Text.ShownTable

/-!
A text in double quotes, as error messages show it: quotes, backslashes and characters that cannot be
seen are escaped, so that the written form has one line and can be told from its surroundings. Words
that were expected stand in backquotes.
-/

set_option autoImplicit false

namespace StageGate.Text

def hexDigits (n : Nat) : List Char := Nat.toDigits 16 n

def isShown (c : Char) : Bool := !inRanges unshownRanges c

def quoteChar (c : Char) : List Char :=
  match c with
  | '\x00' => ['\\', '0']
  | '\t' => ['\\', 't']
  | '\n' => ['\\', 'n']
  | '\r' => ['\\', 'r']
  | '"' => ['\\', '"']
  | '\\' => ['\\', '\\']
  | c => if isShown c then [c] else ['\\', 'u', '\x7b'] ++ hexDigits c.toNat ++ ['\x7d']

def quote (s : String) : String := .ofList (['"'] ++ s.toList.flatMap quoteChar ++ ['"'])

def describeWords : List String → String
  | [a] => s!"`{a}`"
  | [a, b] => s!"`{a}` or `{b}`"
  | words => "one of " ++ ", ".intercalate (words.map fun w => s!"`{w}`")

end StageGate.Text
