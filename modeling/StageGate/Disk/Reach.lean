import StageGate.Disk.Basic

/-!
Which part of a disk some paths can touch, and how two disks differ there. A disk that agrees with
another one at the places of a path behaves like it for that path.
-/

set_option autoImplicit false

namespace StageGate.Disk

/-- The place one step further, whatever stands there. -/
def onward (place : Place) (part : String) : Place :=
  if part = "" ∨ part = "." then place
  else if part = ".." then place.dropLast
  else place ++ [part]

def placesFrom (place : Place) : List String → List Place
  | [] => []
  | part :: parts =>
    let next := onward place part
    next :: placesFrom next parts

def places (d : Disk) (p : Path) : List Place :=
  placesFrom [] (d.start p) ++ placesFrom (d.start p) p.steps

/-- What stands at some of the places on one disk but not on another one. -/
def changes (places : List Place) (old new : Disk) : List (Place × Item) :=
  places.filterMap fun place =>
    match new.below place with
    | some item => if old.below place = some item then none else some (place, item)
    | none => none

end StageGate.Disk
