import StageGate.Status
import StageGate.Time.Instant

/-!
The progress of one stage: its status, when work on it began and ended, and how many rounds of work it
has seen.
-/

set_option autoImplicit false

namespace StageGate

structure Entry where
  status : Status
  startedAt : Option Instant
  completedAt : Option Instant
  rounds : UInt32
  deriving DecidableEq, Repr

namespace Entry

def untouched : Entry := ⟨.pending, none, none, 0⟩

/-- One round more; the greatest number that can be kept stays. -/
def countRound (n : UInt32) : UInt32 := if n = 0xFFFFFFFF then n else n + 1

/-- Begins another round of work. The time at which the first one began is kept. -/
def enter (now : Instant) (e : Entry) : Entry :=
  { e with
    status := .inProgress
    startedAt := some (e.startedAt.getD now)
    rounds := countRound e.rounds }

def complete (now : Instant) (e : Entry) : Entry :=
  { e with status := .completed, completedAt := some now }

theorem toNat_countRound (n : UInt32) : (countRound n).toNat = min (n.toNat + 1) 0xFFFFFFFF := by
  have h := n.toNat_lt
  unfold countRound
  split
  · next hn => subst hn; decide
  · next hn =>
    have : n.toNat ≠ 0xFFFFFFFF := fun h => hn (UInt32.toNat_inj.1 h)
    rw [UInt32.toNat_add]
    simp only [UInt32.toNat_one]
    omega

@[simp] theorem enter_status (now : Instant) (e : Entry) : (e.enter now).status = .inProgress := rfl

@[simp] theorem complete_status (now : Instant) (e : Entry) : (e.complete now).status = .completed := rfl

end Entry

end StageGate
