import StageGate.Proofs.Command.Perform
import StageGate.Proofs.History

/-!
Runs. A run is a list of moves: a command is called, the clock is set, or others work on the disk. Two
runs that start from the same disk at the same time go the same way, whatever has been noted and shown
before.
-/

set_option autoImplicit false

namespace StageGate

open Session

inductive Move where
  | call (c : Command)
  | clock (now : Instant)
  | work (change : Disk → Disk)

namespace Move

def next (l : Layout) (w : Surroundings) : Move → Surroundings
  | call c => (c.call l w).after
  | clock now => { w with now }
  | work change => { w with disk := change w.disk }

def call? (l : Layout) (w : Surroundings) : Move → Option Call
  | call c => some (c.call l w)
  | clock _ | work _ => none

end Move

namespace Run

def calls (l : Layout) (w : Surroundings) : List Move → List Call
  | [] => []
  | m :: ms => (m.call? l w).toList ++ calls l (m.next l w) ms

def ending (l : Layout) (w : Surroundings) : List Move → Surroundings
  | [] => w
  | m :: ms => ending l (m.next l w) ms

theorem calls_call (l : Layout) (w : Surroundings) (c : Command) (ms : List Move) :
    calls l w (.call c :: ms) = c.call l w :: calls l (c.call l w).after ms := rfl

end Run

structure Surroundings.Alike (w v : Surroundings) : Prop where
  disk : v.disk = w.disk
  now : v.now = w.now

structure Call.Alike (a b : Call) : Prop where
  command : b.command = a.command
  result : b.result = a.result
  before : a.before.Alike b.before
  after : a.after.Alike b.after

namespace Command

variable {l : Layout} {c : Command} {w v : Surroundings}

theorem call_result (l : Layout) (c : Command) (w : Surroundings) :
    (c.call l w).result = (performed l w.disk w.now c).1 := (performs_run l c w).1

theorem call_disk (l : Layout) (c : Command) (w : Surroundings) :
    (c.call l w).after.disk = (performed l w.disk w.now c).2 := (performs_run l c w).2.1

theorem call_now (l : Layout) (c : Command) (w : Surroundings) : (c.call l w).after.now = w.now :=
  (performs_run l c w).2.2

theorem call_alike (h : w.Alike v) (l : Layout) (c : Command) : (c.call l w).Alike (c.call l v) where
  command := rfl
  result := by rw [call_result, call_result, h.disk, h.now]
  before := h
  after := ⟨by rw [call_disk, call_disk, h.disk, h.now], by rw [call_now, call_now, h.now]⟩

end Command

namespace Move

variable {w v : Surroundings}

theorem next_alike (h : w.Alike v) (l : Layout) (m : Move) : (m.next l w).Alike (m.next l v) := by
  cases m with
  | call c => exact (Command.call_alike h l c).after
  | clock now => exact ⟨h.disk, rfl⟩
  | work change => exact ⟨congrArg change h.disk, h.now⟩

end Move

end StageGate
