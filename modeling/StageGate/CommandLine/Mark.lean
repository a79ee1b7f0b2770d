import StageGate.Text.Split

/-!
Words of a command line. A word is a word for itself, or it sets flags and gives values to parameters;
short spellings of one letter may stand together in one word, and all words behind the divider stand
for themselves.
-/

set_option autoImplicit false

namespace StageGate.CommandLine

inductive Flag where
  | verbose | version | help
  deriving DecidableEq, Repr

inductive Parameter where
  | root | mode | scores
  deriving DecidableEq, Repr

def Flag.name : Flag → String
  | verbose => "verbose"
  | version => "version"
  | help => "help"

def Flag.letter : Flag → Char
  | verbose => 'v'
  | version => 'V'
  | help => 'h'

def Parameter.name : Parameter → String
  | root => "root"
  | mode => "mode"
  | scores => "scores"

def Parameter.letter? : Parameter → Option Char
  | root => none
  | mode => some 'm'
  | scores => some 's'

structure Options where
  flags : List Flag
  parameters : List Parameter
  deriving DecidableEq, Repr

inductive Mark where
  | word (text : String)
  | flag (f : Flag)
  | parameter (p : Parameter) (value : String)
  | awaiting (p : Parameter)
  | divider
  | unknown
  deriving DecidableEq, Repr

namespace Mark

/-- The marks of letters that stand together: flags, and last a parameter with the letters behind it as
its value, before which an equals sign may stand. -/
def ofLetters (options : Options) : List Char → List Mark
  | [] => []
  | c :: cs =>
    match options.flags.find? (·.letter = c), options.parameters.find? (·.letter? = some c), cs with
    | some f, _, _ => flag f :: ofLetters options cs
    | none, some p, [] => [awaiting p]
    | none, some p, '=' :: value => [parameter p (.ofList value)]
    | none, some p, value => [parameter p (.ofList value)]
    | none, none, _ => [unknown]

def ofName (options : Options) (name : String) (value : Option String) : Mark :=
  match options.flags.find? (·.name = name), options.parameters.find? (·.name = name), value with
  | some f, _, none => flag f
  | none, some p, some value => parameter p value
  | none, some p, none => awaiting p
  | _, _, _ => unknown

/-- The marks of one word. A hyphen alone is a word for itself. -/
def ofWord (options : Options) (word : String) : List Mark :=
  match word.toList with
  | ['-', '-'] => [divider]
  | '-' :: '-' :: cs =>
    match Text.splitFirst '=' cs with
    | some (name, value) => [ofName options (.ofList name) (some (.ofList value))]
    | none => [ofName options (.ofList cs) none]
  | '-' :: c :: cs => ofLetters options (c :: cs)
  | _ => [.word word]

def ofWords (options : Options) : List String → List Mark
  | [] => []
  | w :: ws =>
    if w = "--" then divider :: ws.map .word else ofWord options w ++ ofWords options ws

end Mark

end StageGate.CommandLine
