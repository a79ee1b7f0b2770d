import StageGate.Disk.Path

/-!
A disk as a value: which files and folders stand at which places. Operations on it fail exactly because
of what stands there, and a failed one says why. What an operation reads or changes is given by a path,
which is followed step by step through existing folders.
-/

set_option autoImplicit false

namespace StageGate

inductive Item where
  | file (content : ByteArray)
  | folder

instance : DecidableEq Item
  | .file a, .file b =>
    match ByteArray.decEq a b with
    | isTrue h => isTrue (congrArg Item.file h)
    | isFalse h => isFalse (h ∘ Item.file.inj)
  | .file _, .folder => isFalse Item.noConfusion
  | .folder, .file _ => isFalse Item.noConfusion
  | .folder, .folder => isTrue rfl

abbrev Place := List String

structure Disk where
  /-- What stands at a place below the top. -/
  below : Place → Option Item
  /-- The folder from which relative paths start. -/
  here : Place

inductive DiskFault where
  | notFound
  | isFolder
  | notFolder
  | alreadyExists
  | notText
  deriving DecidableEq, Repr

namespace DiskFault

def message : DiskFault → String
  | notFound => "No such file or directory (os error 2)"
  | isFolder => "Is a directory (os error 21)"
  | notFolder => "Not a directory (os error 20)"
  | alreadyExists => "File exists (os error 17)"
  | notText => "stream did not contain valid UTF-8"

end DiskFault

namespace Disk

def empty (here : Place) : Disk :=
  { below := fun place => if place <+: here then some .folder else none
    here }

def item? (d : Disk) (place : Place) : Option Item :=
  if place = [] then some .folder else d.below place

def put (d : Disk) (place : Place) (item : Item) : Disk :=
  { d with below := fun q => if q = place then some item else d.below q }

@[simp] theorem put_below_self (d : Disk) (place : Place) (item : Item) :
    (d.put place item).below place = some item := by simp [put]

theorem put_below_of_ne (d : Disk) {place q : Place} (item : Item) (h : q ≠ place) :
    (d.put place item).below q = d.below q := by simp [put, h]

theorem item?_put_of_ne (d : Disk) {place q : Place} (item : Item) (h : q ≠ place) :
    (d.put place item).item? q = d.item? q := by simp [item?, put, h]

theorem item?_put_self (d : Disk) {place : Place} (item : Item) (h : place ≠ []) :
    (d.put place item).item? place = some item := by simp [item?, h]

/-- One step from a folder to what it holds, to itself, or to the folder above. -/
def step (d : Disk) (place : Place) (part : String) : Except DiskFault Place :=
  match d.item? place with
  | some .folder =>
    if part = "" ∨ part = "." then .ok place
    else if part = ".." then .ok place.dropLast
    else
      let next := place ++ [part]
      if (d.item? next).isSome then .ok next else .error .notFound
  | some (.file _) => .error .notFolder
  | none => .error .notFound

def start (d : Disk) (p : Path) : Place := if p.isAbsolute then [] else d.here

def walk (d : Disk) (place : Place) (parts : List String) : Except DiskFault Place :=
  parts.foldlM d.step place

def find (d : Disk) (p : Path) : Except DiskFault Item := do
  if p.text = "" then throw .notFound
  let place ← d.walk (d.start p) p.steps
  match d.item? place with
  | some i => return i
  | none => throw .notFound

def «exists» (d : Disk) (p : Path) : Bool := (d.find p).isOk

def isFolder (d : Disk) (p : Path) : Bool :=
  match d.find p with
  | .ok .folder => true
  | _ => false

def textOf : Item → Except DiskFault String
  | .folder => .error .isFolder
  | .file content =>
    match String.fromUTF8? content with
    | some s => .ok s
    | none => .error .notText

@[simp] theorem textOf_toUTF8 (s : String) : textOf (.file s.toUTF8) = .ok s := by
  have h : String.fromUTF8? s.toUTF8 = some s := by
    rw [String.fromUTF8?, String.toUTF8_eq_toByteArray, dif_pos s.isValidUTF8]
    rfl
  simp only [textOf, h]

def readText (d : Disk) (p : Path) : Except DiskFault String := do textOf (← d.find p)

/-- The last part of a path that is not empty, those before it, and whether a slash follows it. -/
def lastPart (p : Path) : Option (List String × String × Bool) :=
  let parts := p.steps
  let rest := parts.reverse.dropWhile (· = "")
  match rest with
  | [] => none
  | last :: before => some (before.reverse, last, rest.length ≠ parts.length)

/-- The place for a new item: the folder that shall hold it is there, and the last part is a name. A
part that is no name stands for a folder that is there. -/
def newPlace (d : Disk) (place : Place) (before : List String) (last : String) :
    Except DiskFault (Option Place) := do
  let folder ← d.walk place before
  match d.item? folder with
  | some .folder => return if last = "." ∨ last = ".." then none else some (folder ++ [last])
  | some (.file _) => throw .notFolder
  | none => throw .notFound

def write (d : Disk) (p : Path) (content : ByteArray) : Except DiskFault Disk := do
  if p.text = "" then throw .notFound
  match lastPart p with
  | none => throw .isFolder
  | some (before, last, slash) =>
    match ← d.newPlace (d.start p) before last with
    | none => throw .isFolder
    | some place =>
      if slash ∨ d.item? place = some .folder then throw .isFolder
      else return d.put place (.file content)

def makeFolder (d : Disk) (p : Path) : Except DiskFault Disk := do
  if p.text = "" then throw .notFound
  match lastPart p with
  | none => throw .alreadyExists
  | some (before, last, _) =>
    match ← d.newPlace (d.start p) before last with
    | none => throw .alreadyExists
    | some place =>
      if (d.item? place).isSome then throw .alreadyExists else return d.put place .folder

/-- Makes the first of some folders, and before it those of the others, nearest first, that it needs.
What could be made stays also when the rest fails. -/
def makeFirst (d : Disk) : List Path → Except DiskFault Unit × Disk
  | [] => (.ok (), d)
  | p :: above =>
    match d.makeFolder p with
    | .ok made => (.ok (), made)
    | .error .notFound =>
      match d.makeFirst above with
      | (.error e, made) => (.error e, made)
      | (.ok (), made) =>
        match made.makeFolder p with
        | .ok made => (.ok (), made)
        | .error e => (if made.isFolder p then .ok () else .error e, made)
    | .error e => (if d.isFolder p then .ok () else .error e, d)

/-- Makes a folder with all the folders above it; one that is there already is left as it is. -/
def makeFolders (d : Disk) (p : Path) : Except DiskFault Unit × Disk :=
  if p.text = "" then (.ok (), d) else d.makeFirst (p :: p.parents)

end Disk

end StageGate
