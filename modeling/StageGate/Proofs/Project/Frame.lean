import Mathlib.Algebra.Ring.Nat
import StageGate.Proofs.Shape

/-!
What transitions change of a project and what they leave as it was, whatever project it is: its texts, its
mode, the times at which it was made and written, and its score are never touched, and of its entries only
those of the stages that are left and entered.
-/

set_option autoImplicit false

namespace StageGate

namespace Entry

/-- The entry after one round more, which begins at this time unless the stage has begun before. -/
structure OneRoundMore (now : Instant) (e e' : Entry) : Prop where
  startedAt : e'.startedAt = some (e.startedAt.getD now)
  rounds : e'.rounds.toNat = min (e.rounds.toNat + 1) (2 ^ 32 - 1)

structure Entered (now : Instant) (e e' : Entry) : Prop extends OneRoundMore now e e' where
  status : e'.status = .inProgress
  completedAt : e'.completedAt = e.completedAt

structure Completed (now : Instant) (e e' : Entry) : Prop where
  status : e'.status = .completed
  completedAt : e'.completedAt = some now
  startedAt : e'.startedAt = e.startedAt
  rounds : e'.rounds = e.rounds

variable (now : Instant) (e : Entry)

theorem oneRoundMore_enter : e.OneRoundMore now (e.enter now) where
  startedAt := rfl
  rounds := toNat_countRound e.rounds

theorem oneRoundMore_complete : e.OneRoundMore now ((e.enter now).complete now) where
  startedAt := rfl
  rounds := toNat_countRound e.rounds

theorem entered_enter : e.Entered now (e.enter now) where
  toOneRoundMore := e.oneRoundMore_enter now
  status := rfl
  completedAt := rfl

theorem completed_complete : e.Completed now (e.complete now) := ⟨rfl, rfl, rfl, rfl⟩

end Entry

namespace Project

structure MovedTo (p : Project) (s : Stage) (now : Instant) (q : Project) : Prop where
  fields : q = { p with stage := s, entries := q.entries }
  left : (p.entries p.stage).Completed now (q.entries p.stage)
  entered : (p.entries s).Entered now (q.entries s)
  others : ∀ t, t ≠ p.stage → t ≠ s → q.entries t = p.entries t

structure Resumed (p : Project) (now : Instant) (q : Project) : Prop where
  fields : q = { p with entries := q.entries }
  entered : (p.entries p.stage).Entered now (q.entries p.stage)
  others : ∀ t, t ≠ p.stage → q.entries t = p.entries t

structure Closed (p : Project) (now : Instant) (q : Project) : Prop where
  fields : q = { p with entries := q.entries }
  completed : (p.entries .validate).Completed now (q.entries .validate)
  others : ∀ t, t ≠ .validate → q.entries t = p.entries t

variable (p : Project) (now : Instant)

theorem movedTo_moveTo {s : Stage} (h : s ≠ p.stage) : p.MovedTo s now (p.moveTo s now) where
  fields := rfl
  left := by
    rw [moveTo_entries p h, if_neg h.symm, if_pos rfl]
    exact p.current.completed_complete now
  entered := by
    rw [moveTo_entries p h, if_pos rfl]
    exact (p.entries s).entered_enter now
  others t ht hs := by rw [moveTo_entries p h, if_neg hs, if_neg ht]

theorem resumed_enterRound : p.Resumed now (p.enterRound now) where
  fields := rfl
  entered := by
    rw [enterRound, updateEntry_entries_self]
    exact p.current.entered_enter now
  others _ ht := enterRound_entries_of_ne ht

theorem closed_updateEntry : p.Closed now (p.updateEntry .validate (·.complete now)) where
  fields := rfl
  completed := by
    rw [updateEntry_entries_self]
    exact (p.entries .validate).completed_complete now
  others _ ht := updateEntry_entries_of_ne ht

end Project

end StageGate
