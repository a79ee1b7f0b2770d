import StageGate.Command.Basic
import StageGate.CommandLine.Mark

/-!
What a command line asks for: to run a command below some root, or to show something about the program.
Options may stand before the name of the command and behind it, at either place once; what stands
behind it counts more.
-/

set_option autoImplicit false

namespace StageGate.CommandLine

structure Order where
  root : Path
  verbose : Bool
  /-- The command, given the mode of a new project for which none is asked. -/
  command : Mode → Command

inductive Stop where
  | version | help | misused
  deriving DecidableEq, Repr

structure Given where
  root : Option String
  verbose : Bool
  mode : Option Mode
  scores : Option String
  words : List String
  deriving DecidableEq, Repr

namespace Given

def nothing : Given := ⟨none, false, none, none, []⟩

def once {α : Type} (old : Option α) (value : α) : Except Stop (Option α) :=
  match old with
  | none => .ok (some value)
  | some _ => .error .misused

def setFlag (g : Given) : Flag → Except Stop Given
  | .verbose => if g.verbose then .error .misused else .ok { g with verbose := true }
  | .version => .error .version
  | .help => .error .help

def setParameter (g : Given) (p : Parameter) (value : String) : Except Stop Given :=
  match p with
  | .root =>
    if value = "" then .error .misused
    else (once g.root value).map fun root => { g with root }
  | .mode =>
    match Mode.read value with
    | .ok m => (once g.mode m).map fun mode => { g with mode }
    | .error _ => .error .misused
  | .scores => (once g.scores value).map fun scores => { g with scores }

/-- Takes in marks one by one; the first one that does not fit, or that shows something about the
program, ends it. -/
def takeIn (g : Given) : List Mark → Except Stop Given
  | [] => .ok g
  | .word w :: ms => takeIn { g with words := g.words ++ [w] } ms
  | .flag f :: ms => do takeIn (← g.setFlag f) ms
  | .parameter p value :: ms => do takeIn (← g.setParameter p value) ms
  | .awaiting p :: .word value :: ms => do takeIn (← g.setParameter p value) ms
  | .divider :: ms => takeIn g ms
  | .awaiting _ :: _ | .unknown :: _ => .error .misused

end Given

def outerOptions : Options := ⟨[.verbose, .version, .help], [.root]⟩

def innerOptions? (name : String) : Option Options :=
  let standard : Options := ⟨[.verbose, .help], [.root]⟩
  match name with
  | "init" => some { standard with parameters := [.root, .mode] }
  | "clarify" => some { standard with parameters := [.root, .scores] }
  | "status" | "start" | "advance" | "validate" => some standard
  | _ => none

def command? (name : String) (g : Given) : Option (Mode → Command) :=
  match name, g.words with
  | "init", [project, description] =>
    some fun standard => .init project description (g.mode.getD standard)
  | "status", [] => some fun _ => .status
  | "start", [stage] => (Stage.ofName? stage).map fun s _ => .start s
  | "advance", [stage] => (Stage.ofName? stage).map fun s _ => .advance s
  | "clarify", [] => some fun _ => .clarify g.scores
  | "validate", [] => some fun _ => .validate
  | _, _ => none

/-- The marks before the name of the command, and the words from that name on. A word that a parameter
awaits is not the name; nothing behind a divider is. -/
def beforeCommand (awaited : Bool) : List String → List Mark × List String
  | [] => ([], [])
  | w :: ws =>
    match Mark.ofWord outerOptions w with
    | [.divider] => ([.divider], [])
    | [.word v] =>
      if awaited then
        let (ms, rest) := beforeCommand false ws
        (.word v :: ms, rest)
      else ([], w :: ws)
    | ms =>
      let awaits := match ms.getLast? with
        | some (.awaiting _) => true
        | _ => false
      let (more, rest) := beforeCommand awaits ws
      (ms ++ more, rest)

def standardRoot : String := "."

def read (words : List String) : Except Stop Order := do
  let (ms, rest) := beforeCommand false words
  let outer ← Given.nothing.takeIn ms
  match rest with
  | [] => throw .misused
  | "help" :: _ => throw .help
  | name :: words =>
    let options ← (innerOptions? name).elim (throw .misused) pure
    let inner ← Given.nothing.takeIn (Mark.ofWords options words)
    let command ← (command? name inner).elim (throw .misused) pure
    return { root := ⟨(inner.root <|> outer.root).getD standardRoot⟩
             verbose := outer.verbose || inner.verbose
             command }

end StageGate.CommandLine
