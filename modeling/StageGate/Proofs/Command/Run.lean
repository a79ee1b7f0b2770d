import StageGate.Proofs.Command.Perform
import StageGate.Proofs.Command.Step

/-!
What running a command does to the project on the disk: nothing when it fails or only looks, a new
project where there was none, or the change that the command stands for.
-/

set_option autoImplicit false

namespace StageGate.Command

open Session Store

variable {l : Layout} {c : Command} {w : Surroundings} {p q : Project} {o : Outcome}

theorem exec_run_of_change_error {e : Failure} (hc : c.isRevision = true)
    (h : read l w.disk = .ok p) (he : change l w.disk w.now p c = .error e) :
    ∃ next, exec (run l c) w = (.error e, next) ∧ next.disk = w.disk := by
  have hp : prepared l w.disk w.now c = .error e := by
    rw [prepared_of_isRevision hc, h]
    exact he
  obtain ⟨next, hx, hd, -⟩ := (performs_run l c).exec_eq (performed_of_prepared_error hp)
  exact ⟨next, hx, hd⟩

theorem exec_run_of_change_ok (hc : c.isRevision = true) (h : read l w.disk = .ok p)
    (hq : change l w.disk w.now p c = .ok (q, o)) :
    ∃ next, exec (run l c) w = (.ok o, next) ∧ read l next.disk = .ok (q.stamped w.now) := by
  obtain ⟨made, hp, hr⟩ := performed_of_change hc h hq
  obtain ⟨next, hx, rfl, -⟩ := (performs_run l c).exec_eq hp
  exact ⟨next, hx, hr⟩

theorem project?_of_not_exists {d : Disk} (h : d.exists l.projectFile = false) :
    project? l d = none := by
  refine project?_of_no_file fun bytes hf => ?_
  simp [exists_of_find hf] at h

/-- Init makes a project where nothing stood; where it fails, it leaves no project that was not there
before. -/
theorem performed_init_cases (l : Layout) (name description : String) (mode : Mode) (d : Disk)
    (now : Instant) :
    (∃ e made, performed l d now (init name description mode) = (.error e, made) ∧
      project? l made = project? l d) ∨
    ∃ made, performed l d now (init name description mode) = (.ok .done, made) ∧
      project? l d = none ∧ project? l made = some (created name description mode now) := by
  cases hp : prepared l d now (init name description mode) with
  | error e => exact Or.inl ⟨e, d, performed_of_prepared_error hp, rfl⟩
  | ok r =>
    obtain ⟨he, rfl⟩ := prepared_init_eq_ok hp
    have hnone := project?_of_not_exists he
    have hc := performed_of_prepared_ok hp (by simp)
    rcases saved_cases l (Project.create (Text.trimmed name) (Text.trimmed description) mode now) d now with
      ⟨made, hs, hf⟩ | ⟨e, made, hs, hf⟩
    · rw [committed, hs] at hc
      exact Or.inr ⟨made, hc, hnone, project?_eq_some.2 (read_of_find hf)⟩
    · rw [committed, hs] at hc
      exact Or.inl ⟨e, made, hc, by rw [hnone, project?_of_no_file hf]⟩

/-- All that a run of a command can do to the project on the disk. -/
inductive Effect (l : Layout) (c : Command) (w : Surroundings) :
    Except Failure Outcome → Surroundings → Prop
  | refused (e : Failure) (next : Surroundings) (h : project? l next.disk = project? l w.disk) :
    Effect l c w (.error e) next
  | looked (next : Surroundings) (hc : c = status) (h : next.disk = w.disk) :
    Effect l c w (.ok .done) next
  | began (name description : String) (mode : Mode) (next : Surroundings)
    (hc : c = init name description mode) (h : project? l w.disk = none)
    (hn : project? l next.disk = some (created name description mode w.now)) :
    Effect l c w (.ok .done) next
  | changed (p q : Project) (o : Outcome) (next : Surroundings) (h : project? l w.disk = some p)
    (hs : Step l w.disk w.now p c q o) (hn : project? l next.disk = some (q.stamped w.now)) :
    Effect l c w (.ok o) next

theorem effect_run (l : Layout) (c : Command) (w : Surroundings) :
    Effect l c w (exec (run l c) w).1 (exec (run l c) w).2 := by
  by_cases hs : c = status
  · subst hs
    obtain ⟨next, hx, hd, -⟩ := (performs_run l status).exec_eq (performed_status l w.disk w.now)
    rw [hx]
    cases read l w.disk with
    | error e => exact .refused e next (by rw [hd])
    | ok p => exact .looked next rfl hd
  cases hp : prepared l w.disk w.now c with
  | error e =>
    obtain ⟨next, hx, hd, -⟩ := (performs_run l c).exec_eq (performed_of_prepared_error hp)
    rw [hx]
    exact .refused e next (by rw [hd])
  | ok r =>
    cases hi : c.isInit with
    | false =>
      have hc := isRevision_of_ne hi hs
      rw [prepared_of_isRevision hc] at hp
      obtain ⟨p, hr, hq⟩ := bind_eq_ok.1 hp
      obtain ⟨next, hx, hn⟩ := exec_run_of_change_ok hc hr hq
      rw [hx]
      exact .changed p r.1 r.2 next (project?_eq_some.2 hr) ((change_eq_ok hc).1 hq)
        (project?_eq_some.2 hn)
    | true =>
      obtain ⟨name, description, mode, rfl⟩ := isInit_iff.1 hi
      rcases performed_init_cases l name description mode w.disk w.now with
        ⟨e, made, hf, hm⟩ | ⟨made, hf, hn, hm⟩
      · obtain ⟨next, hx, rfl, -⟩ := (performs_run l _).exec_eq hf
        rw [hx]
        exact .refused e next hm
      · obtain ⟨next, hx, rfl, -⟩ := (performs_run l _).exec_eq hf
        rw [hx]
        exact .began name description mode next rfl hn hm

end StageGate.Command
