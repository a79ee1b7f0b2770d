import StageGate.Command.Run
import StageGate.Proofs.Session

/-!
What commands do to a project that has been loaded, as a function of the disk and of the clock. The
project is checked and changed without a look at anything else; only validate reads the documents.
-/

set_option autoImplicit false

namespace StageGate

open Session

/-- The project with a round begun at its stage, if there was none. -/
def Project.ensureRound (p : Project) (now : Instant) : Project :=
  if p.current.status = .pending then p.enterRound now else p

namespace Command

def checkArtifact (l : Layout) (d : Disk) (s : Stage) : Except Failure Unit :=
  match l.artifact? s with
  | none => .ok ()
  | some path =>
    match d.readText path with
    | .error e => .error (.onDisk (.readArtifact s) path e)
    | .ok text => if Text.isBlankText text then .error (.blankArtifact path) else .ok ()

def artifactsFault (l : Layout) (d : Disk) : Except Failure Unit :=
  (Stage.order.filter fun s => !s.isFinal).forM (checkArtifact l d)

def roundScore (list : String) : UInt8 :=
  Clarity.score (Clarity.applyScores list Clarity.blankRatings).ratings

def roundUncovered (list : String) : List Clarity.Dimension :=
  Clarity.uncovered (Clarity.applyScores list Clarity.blankRatings).ratings

def scored (p : Project) (list : String) (now : Instant) : Except Refusal (Project × Outcome) :=
  let q := { p with score := roundScore list }
  if p.threshold ≤ roundScore list then
    (q.advance now).map fun r => (r, .gatePassed (roundScore list) p.threshold)
  else .ok (q, .needsClarification (roundScore list) p.threshold (roundUncovered list))

def completeRound (p : Project) (now : Instant) : Except Refusal (Project × Outcome) :=
  ((p.ensureRound now).advance now).map fun r => (r, .done)

def change (l : Layout) (d : Disk) (now : Instant) (p : Project) :
    Command → Except Failure (Project × Outcome)
  | init .. | status => .ok (p, .done)
  | start s => do
    (p.requireStage s).mapError .refused
    .ok (p.enterRound now, .done)
  | advance s => do
    (p.requireStage s).mapError .refused
    (completeRound p now).mapError .refused
  | clarify scores => do
    (p.requireStage .clarify).mapError .refused
    match givenScores scores with
    | none => .ok (p.enterRound now, .framework)
    | some list => (scored (p.enterRound now) list now).mapError .refused
  | validate => do
    (p.requireStage .validate).mapError .refused
    artifactsFault l d
    let q ← ((p.enterRound now).finish now).mapError .refused
    .ok (q, .done)

/-- The command changes a project that is there. -/
def isRevision : Command → Bool
  | init .. | status => false
  | _ => true

/-! ### The sessions compute these functions -/

theorem computes_enterRound (p : Project) :
    Computes (Pipeline.enterRound p) fun _ t => .ok (p.enterRound t) := fun _ => ⟨rfl, rfl, rfl⟩

theorem computes_advance (p : Project) :
    Computes (Pipeline.advance p) fun _ t => (p.advance t).mapError .refused := by
  intro w
  cases h : p.advance w.now <;> simp [Pipeline.advance, exec_bind, h, Except.map]

theorem computes_finish (p : Project) :
    Computes (Pipeline.finish p) fun _ t => (p.finish t).mapError .refused := by
  intro w
  cases h : p.finish w.now <;> simp [Pipeline.finish, orRefuse, exec_bind, h, Except.map]

theorem computes_checkArtifacts (l : Layout) :
    Computes (checkArtifacts l) fun d _ => artifactsFault l d := by
  refine Computes.forM fun s => ?_
  intro w
  cases hl : l.artifact? s with
  | none => simp [checkArtifact, hl]
  | some path =>
    cases ht : w.disk.readText path with
    | error e => simp [checkArtifact, hl, ht, exec_bind]
    | ok text => by_cases hb : Text.isBlankText text <;> simp [checkArtifact, hl, ht, hb, exec_bind]

theorem mapError_map {α β : Type} (x : Except Refusal α) (f : α → β) (g : Refusal → Failure) :
    (x.map f).mapError g = (x.mapError g).bind fun a => .ok (f a) := by
  cases x <;> rfl

theorem computes_judge (p : Project) (list : String) :
    Computes (judge p list) fun _ t => (scored p list t).mapError .refused := by
  refine ((Computes.note _).bind fun _ => Computes.ite
    ((computes_advance _).bind fun q => Computes.pure _) (Computes.pure _)).congr fun _ t => ?_
  by_cases h : p.threshold ≤ roundScore list
  · refine (if_pos h).trans ?_
    rw [scored, if_pos h]
    exact (mapError_map _ _ _).symm
  · refine (if_neg h).trans ?_
    rw [scored, if_neg h]
    rfl

theorem computes_completeRound (p : Project) :
    Computes (do
      let p ← if p.current.status = .pending then Pipeline.enterRound p else pure p
      return (← Pipeline.advance p, Outcome.done))
    fun _ t => (completeRound p t).mapError .refused := by
  by_cases hp : p.current.status = .pending
  · simp only [hp, if_true]
    refine ((computes_enterRound p).bind fun q => (computes_advance q).bind fun r =>
      Computes.pure _).congr fun _ t => ?_
    rw [completeRound, Project.ensureRound, if_pos hp, mapError_map]
    rfl
  · simp only [hp, if_false]
    refine ((Computes.pure p).bind fun q => (computes_advance q).bind fun r =>
      Computes.pure _).congr fun _ t => ?_
    rw [completeRound, Project.ensureRound, if_neg hp, mapError_map]
    rfl

theorem computes_revise (l : Layout) (p : Project) (c : Command) :
    Computes (revise l p c) fun d t => change l d t p c := by
  cases c with
  | init name description mode => exact Computes.pure _
  | status => exact Computes.pure _
  | start s =>
    exact (Computes.orRefuse _).bind fun _ => (computes_enterRound p).bind fun q => Computes.pure _
  | advance s => exact (Computes.orRefuse _).bind fun _ => computes_completeRound p
  | clarify scores =>
    refine (Computes.orRefuse _).bind fun _ => ?_
    cases hg : givenScores scores with
    | none => exact (computes_enterRound p).bind fun q => Computes.pure _
    | some list => exact (computes_enterRound p).bind fun q => computes_judge q list
  | validate =>
    refine (Computes.orRefuse _).bind fun _ => (computes_checkArtifacts l).bind fun _ => ?_
    exact (computes_enterRound p).bind fun q => (computes_finish q).bind fun r => Computes.pure _

end Command

end StageGate
