import StageGate.Proofs.Command.Change
import StageGate.Proofs.Store.Basic

/-!
Commands as functions of the disk and of the clock. A command first prepares a project, which needs no
more than a look at the disk, and then saves it; a change of the disk is made by the second part only.
-/

set_option autoImplicit false

namespace StageGate

open Session

namespace Store

variable {l : Layout} {d : Disk} {p q : Project} {now : Instant}

theorem exists_of_find {item : Item} (h : d.find l.projectFile = .ok item) :
    d.exists l.projectFile = true := by
  simp [Disk.exists, h]

theorem exists_of_read (h : read l d = .ok q) : d.exists l.projectFile = true := by
  obtain ⟨bytes, hb⟩ := find_of_read h
  exact exists_of_find hb

theorem exists_of_saved {made : Disk} (h : saved l p d now = (.ok q, made)) :
    made.exists l.projectFile = true := by
  rcases saved_cases l p d now with ⟨last, hs, hf⟩ | ⟨e, last, hs, -⟩
  · cases hs.symm.trans h
    exact exists_of_find hf
  · cases hs.symm.trans h

theorem writable_of_read (h : read l d = .ok q) : l.Writable d := by
  obtain ⟨bytes, hb⟩ := find_of_read h
  exact .of_file hb

end Store

namespace Command

open Store

variable {l : Layout} {d : Disk} {now : Instant} {c : Command} {p q : Project} {o : Outcome}
  {r : Project × Outcome}

/-- All that a command does before it saves a project, and what it will give once that is saved. -/
def prepare (l : Layout) : Command → Session (Project × Outcome)
  | init name description mode => do
    let name := Text.trimmed name
    let description := Text.trimmed description
    if name = "" then throw .blankName
    if description = "" then throw .blankDescription
    if ← Store.isInitialized l then throw (.alreadyInitialized l.projectFile)
    return (← Pipeline.create name description mode, .done)
  | c => do revise l (← load l) c

def commit (l : Layout) (c : Command) (r : Project × Outcome) : Session Outcome := do
  let p ← save l r.1
  tell (c.report p r.2)
  return r.2

theorem run_eq (hc : c ≠ status) : run l c = prepare l c >>= commit l c := by
  unfold commit
  cases c with
  | init name description mode =>
    simp only [run, begin, prepare]
    by_cases hn : Text.trimmed name = ""
    · simp [hn]
    by_cases hd : Text.trimmed description = ""
    · simp [hn, hd]
    simp only [hn, hd, if_false, bind_assoc]
    refine bind_congr fun b => ?_
    cases b <;> simp
  | status => exact absurd rfl hc
  | start s => simp [run, prepare]
  | advance s => simp [run, prepare]
  | clarify scores => simp [run, prepare]
  | validate => simp [run, prepare]

def isInit : Command → Bool
  | init .. => true
  | _ => false

theorem isInit_iff : c.isInit = true ↔ ∃ name description mode, c = init name description mode := by
  cases c <;> simp [isInit]

theorem isRevision_of_ne (hi : c.isInit = false) (hs : c ≠ status) : c.isRevision = true := by
  cases c <;> simp_all [isInit, isRevision]

def created (name description : String) (mode : Mode) (now : Instant) : Project :=
  (Project.create (Text.trimmed name) (Text.trimmed description) mode now).stamped now

/-- The project that a command would save, or why there is none. -/
def prepared (l : Layout) (d : Disk) (now : Instant) : Command → Except Failure (Project × Outcome)
  | init name description mode =>
    if Text.trimmed name = "" then .error .blankName
    else if Text.trimmed description = "" then .error .blankDescription
    else if d.exists l.projectFile then .error (.alreadyInitialized l.projectFile)
    else .ok (Project.create (Text.trimmed name) (Text.trimmed description) mode now, .done)
  | c => (read l d).bind fun p => change l d now p c

theorem prepared_of_isRevision (hc : c.isRevision = true) :
    prepared l d now c = (read l d).bind fun p => change l d now p c := by
  cases c with
  | init name description mode => simp [isRevision] at hc
  | status => simp [isRevision] at hc
  | start s => rfl
  | advance s => rfl
  | clarify scores => rfl
  | validate => rfl

theorem prepared_init_eq_ok {name description : String} {mode : Mode}
    (h : prepared l d now (init name description mode) = .ok r) :
    d.exists l.projectFile = false ∧
      r = (Project.create (Text.trimmed name) (Text.trimmed description) mode now, .done) := by
  rw [prepared] at h
  split at h
  · cases h
  · split at h
    · cases h
    · split at h
      · cases h
      · next he =>
        cases h
        exact ⟨by simpa using he, rfl⟩

theorem computes_prepare (l : Layout) (c : Command) :
    Computes (prepare l c) fun d t => prepared l d t c := by
  have hload (c : Command) : Computes (do revise l (← load l) c) fun d t =>
      (read l d).bind fun p => change l d t p c :=
    (computes_load l).bind fun p => computes_revise l p c
  cases c with
  | init name description mode =>
    intro w
    by_cases hn : Text.trimmed name = ""
    · simp [prepare, prepared, hn]
    by_cases hd : Text.trimmed description = ""
    · simp [prepare, prepared, hn, hd]
    cases he : w.disk.exists l.projectFile <;>
      simp [prepare, prepared, hn, hd, he, exec_bind, isInitialized, Pipeline.create, Except.map]
  | status => exact hload status
  | start s => exact hload (start s)
  | advance s => exact hload (advance s)
  | clarify scores => exact hload (clarify scores)
  | validate => exact hload validate

/-- What a command gives when the project is saved that it has prepared, and the disk it leaves. -/
def committed (l : Layout) (r : Project × Outcome) (d : Disk) (now : Instant) :
    Except Failure Outcome × Disk :=
  ((saved l r.1 d now).1.map fun _ => r.2, (saved l r.1 d now).2)

theorem committed_of_writable (h : l.Writable d) (r : Project × Outcome) (now : Instant) :
    ∃ made, committed l r d now = (.ok r.2, made) ∧ read l made = .ok (r.1.stamped now) := by
  obtain ⟨made, hs, hf⟩ := saved_of_writable h r.1 now
  rw [committed, hs]
  exact ⟨made, rfl, read_of_find hf⟩

theorem committed_eq_ok (h : (committed l r d now).1 = .ok o) :
    ∃ p, saved l r.1 d now = (.ok p, (committed l r d now).2) := by
  rw [committed] at h ⊢
  cases hs : saved l r.1 d now with
  | mk result made =>
    rw [hs] at h
    cases result with
    | error e => cases h
    | ok p => exact ⟨p, rfl⟩

theorem committed_eq_error {e : Failure} (h : (committed l r d now).1 = .error e) :
    saved l r.1 d now = (.error e, (committed l r d now).2) := by
  rw [committed] at h ⊢
  cases hs : saved l r.1 d now with
  | mk result made =>
    rw [hs] at h
    cases result with
    | error e' =>
      cases h
      rfl
    | ok p => cases h

theorem performs_commit (l : Layout) (c : Command) (r : Project × Outcome) :
    Performs (commit l c r) (committed l r) := by
  refine ((performs_save l r.1).bind fun p => (Performs.tell (c.report p r.2)).bind fun _ =>
    (Computes.pure r.2).performs).congr fun d t => ?_
  rw [committed]
  cases saved l r.1 d t with
  | mk result made => cases result <;> rfl

def performed (l : Layout) (d : Disk) (now : Instant) (c : Command) : Except Failure Outcome × Disk :=
  match prepared l d now c with
  | .error e => (.error e, d)
  | .ok r => if c = status then (.ok r.2, d) else committed l r d now

theorem performed_of_prepared_error {e : Failure} (h : prepared l d now c = .error e) :
    performed l d now c = (.error e, d) := by
  rw [performed, h]

theorem performed_of_prepared_ok (h : prepared l d now c = .ok r)
    (hc : c ≠ status) : performed l d now c = committed l r d now := by
  rw [performed, h]
  exact if_neg hc

theorem performed_status (l : Layout) (d : Disk) (now : Instant) :
    performed l d now status = ((read l d).map fun _ => .done, d) := by
  cases hr : read l d <;> simp [performed, prepared, change, hr, Except.bind, Except.map]

theorem performed_eq_committed (hc : c.isRevision = true) (h : read l d = .ok p)
    (hq : change l d now p c = .ok (q, o)) : performed l d now c = committed l (q, o) d now := by
  have hs : c ≠ status := by
    rintro rfl
    cases hc
  have hp : prepared l d now c = .ok (q, o) := by
    rw [prepared_of_isRevision hc, h]
    exact hq
  exact performed_of_prepared_ok hp hs

theorem performed_of_change (hc : c.isRevision = true) (h : read l d = .ok p)
    (hq : change l d now p c = .ok (q, o)) :
    ∃ made, performed l d now c = (.ok o, made) ∧ read l made = .ok (q.stamped now) := by
  rw [performed_eq_committed hc h hq]
  exact committed_of_writable (writable_of_read h) (q, o) now

theorem performed_init {name description : String} (hn : Text.trimmed name ≠ "")
    (hd : Text.trimmed description ≠ "") (hw : l.Writable d) (he : d.exists l.projectFile = false)
    (mode : Mode) (now : Instant) :
    ∃ made, performed l d now (init name description mode) = (.ok .done, made) ∧
      read l made = .ok (created name description mode now) := by
  have hp : prepared l d now (init name description mode) =
      .ok (Project.create (Text.trimmed name) (Text.trimmed description) mode now, .done) := by
    simp [prepared, hn, hd, he]
  rw [performed_of_prepared_ok hp (by simp)]
  exact committed_of_writable hw _ now

theorem performed_init_of_exists (hc : c.isInit = true) (h : d.exists l.projectFile = true) :
    ∃ e, (performed l d now c).1 = .error e := by
  obtain ⟨name, description, mode, rfl⟩ := isInit_iff.1 hc
  cases hp : prepared l d now (init name description mode) with
  | error e => exact ⟨e, by rw [performed_of_prepared_error hp]⟩
  | ok r => simp [(prepared_init_eq_ok hp).1] at h

theorem performs_run (l : Layout) (c : Command) :
    Performs (run l c) fun d t => performed l d t c := by
  by_cases hc : c = status
  · subst hc
    refine ((computes_load l).performs.bind fun p => (Performs.tell (status.report p .done)).bind fun _ =>
      (Computes.pure Outcome.done).performs).congr fun d t => ?_
    rw [performed_status]
    cases read l d <;> rfl
  · rw [run_eq hc]
    refine ((computes_prepare l c).performs.bind fun r => performs_commit l c r).congr fun d t => ?_
    cases hp : prepared l d t c with
    | error e => rw [performed_of_prepared_error hp]
    | ok r => rw [performed_of_prepared_ok hp hc]

end Command

end StageGate
