import StageGate.Proofs.Command.Change
import StageGate.Proofs.Results

/-!
The steps that commands take: every change of a project is one of six, and each of these can be taken
exactly when its command is asked for at the right stage.
-/

set_option autoImplicit false

namespace StageGate

theorem Stage.position_of_next? {s t : Stage} (h : s.next? = some t) : t.position = s.position + 1 := by
  revert h
  cases s <;> cases t <;> decide

theorem Stage.ne_of_next? {s t : Stage} (h : s.next? = some t) : t ≠ s := by
  have hpos := position_of_next? h
  rintro rfl
  omega

theorem Stage.next?_ne_init (s : Stage) : s.next? ≠ some .init := fun h => by
  have hpos := position_of_next? h
  simp [position] at hpos

theorem Stage.exists_next? {s : Stage} : (∃ t, s.next? = some t) ↔ s ≠ .validate := by
  cases s <;> simp [Stage.next?, Stage.position, Stage.order]

theorem Stage.isFinal_iff {s : Stage} : s.isFinal = true ↔ s = .validate := by
  cases s <;> decide

namespace Project

variable {p q : Project} {now : Instant} {s : Stage}

@[simp] theorem enterRound_stage (p : Project) (now : Instant) : (p.enterRound now).stage = p.stage :=
  rfl

@[simp] theorem enterRound_threshold (p : Project) (now : Instant) :
    (p.enterRound now).threshold = p.threshold := rfl

@[simp] theorem ensureRound_stage (p : Project) (now : Instant) :
    (p.ensureRound now).stage = p.stage := by
  rw [ensureRound]
  split <;> rfl

@[simp] theorem ensureRound_score (p : Project) (now : Instant) :
    (p.ensureRound now).score = p.score := by
  rw [ensureRound]
  split <;> rfl

@[simp] theorem ensureRound_threshold (p : Project) (now : Instant) :
    (p.ensureRound now).threshold = p.threshold := by
  rw [ensureRound]
  split <;> rfl

@[simp] theorem moveTo_stage (p : Project) (s : Stage) (now : Instant) :
    (p.moveTo s now).stage = s := rfl

@[simp] theorem moveTo_score (p : Project) (s : Stage) (now : Instant) :
    (p.moveTo s now).score = p.score := rfl

@[simp] theorem moveTo_threshold (p : Project) (s : Stage) (now : Instant) :
    (p.moveTo s now).threshold = p.threshold := rfl

@[simp] theorem updateEntry_stage (p : Project) (s : Stage) (f : Entry → Entry) :
    (p.updateEntry s f).stage = p.stage := rfl

theorem requireStage_eq_ok {u : Unit} : p.requireStage s = .ok u ↔ p.stage = s := by
  simp [requireStage]

theorem destination_eq_ok {t : Stage} : p.destination = .ok t ↔
    (p.stage = .clarify → p.threshold ≤ p.score) ∧ p.stage.next? = some t := by
  rw [destination]
  split
  · next hg =>
    have hn : ¬ (p.stage = .clarify → p.threshold ≤ p.score) := fun h =>
      absurd hg.2 (UInt8.not_lt.2 (h hg.1))
    simp only [hn, false_and, reduceCtorEq]
  · next hg =>
    have hp : p.stage = .clarify → p.threshold ≤ p.score := fun h =>
      UInt8.not_lt.1 fun hl => hg ⟨h, hl⟩
    rw [and_iff_right hp]
    cases p.stage.next? <;> simp

theorem advance_eq_ok : p.advance now = .ok q ↔
    (p.stage = .clarify → p.threshold ≤ p.score) ∧ ∃ t, p.stage.next? = some t ∧ q = p.moveTo t now := by
  have ha : p.advance now = .ok q ↔ ∃ t, p.destination = .ok t ∧ q = p.moveTo t now := by
    rw [advance]
    cases p.destination with
    | error e => simp [bind, Except.bind]
    | ok t =>
      simp only [bind, Except.bind, pure, Except.pure, Except.ok.injEq, exists_eq_left']
      exact eq_comm
  simp only [ha, destination_eq_ok, and_assoc, exists_and_left]

theorem finish_eq_ok : p.finish now = .ok q ↔
    p.stage = .validate ∧ q = p.updateEntry .validate (·.complete now) := by
  rw [finish]
  split
  · next h =>
    have hv := Stage.isFinal_iff.1 h
    simp only [hv, true_and, Except.ok.injEq]
    exact eq_comm
  · next h => simp [mt Stage.isFinal_iff.2 h]

end Project

namespace Command

/-- The steps of a project at some time, on a disk with its documents. -/
inductive Step (l : Layout) (d : Disk) (now : Instant) (p : Project) :
    Command → Project → Outcome → Prop
  | started (s : Stage) (h : p.stage = s) : Step l d now p (start s) (p.enterRound now) .done
  | advanced (s t : Stage) (h : p.stage = s) (hg : s = .clarify → p.threshold ≤ p.score)
    (ht : s.next? = some t) :
    Step l d now p (advance s) ((p.ensureRound now).moveTo t now) .done
  | outlined (scores : Option String) (h : p.stage = .clarify) (hg : givenScores scores = none) :
    Step l d now p (clarify scores) (p.enterRound now) .framework
  | passed (scores : Option String) (list : String) (h : p.stage = .clarify)
    (hg : givenScores scores = some list) (hs : p.threshold ≤ roundScore list) :
    Step l d now p (clarify scores)
      (({ p.enterRound now with score := roundScore list } : Project).moveTo .design now)
      (.gatePassed (roundScore list) p.threshold)
  | failed (scores : Option String) (list : String) (h : p.stage = .clarify)
    (hg : givenScores scores = some list) (hs : roundScore list < p.threshold) :
    Step l d now p (clarify scores) { p.enterRound now with score := roundScore list }
      (.needsClarification (roundScore list) p.threshold (roundUncovered list))
  | validated (h : p.stage = .validate) (ha : artifactsFault l d = .ok ()) :
    Step l d now p validate ((p.enterRound now).updateEntry .validate (·.complete now)) .done

variable {l : Layout} {d : Disk} {now : Instant} {p q : Project} {c : Command} {o : Outcome}

theorem Step.isRevision (h : Step l d now p c q o) : c.isRevision = true := by
  cases h <;> rfl

theorem completeRound_eq_ok : completeRound p now = .ok (q, o) ↔
    (p.stage = .clarify → p.threshold ≤ p.score) ∧ o = .done ∧ ∃ t, p.stage.next? = some t ∧
      q = (p.ensureRound now).moveTo t now := by
  simp only [completeRound, map_eq_ok, Project.advance_eq_ok, Project.ensureRound_stage,
    Project.ensureRound_score, Project.ensureRound_threshold, Prod.mk.injEq]
  constructor
  · rintro ⟨_, ⟨hg, t, ht, rfl⟩, rfl, rfl⟩
    exact ⟨hg, rfl, t, ht, rfl⟩
  · rintro ⟨hg, rfl, t, ht, rfl⟩
    exact ⟨_, ⟨hg, t, ht, rfl⟩, rfl, rfl⟩

theorem scored_eq_ok {list : String} (hc : p.stage = .clarify) : scored p list now = .ok (q, o) ↔
    (p.threshold ≤ roundScore list ∧ o = .gatePassed (roundScore list) p.threshold ∧
      q = ({ p with score := roundScore list } : Project).moveTo .design now) ∨
    (roundScore list < p.threshold ∧ q = { p with score := roundScore list } ∧
      o = .needsClarification (roundScore list) p.threshold (roundUncovered list)) := by
  rw [scored]
  by_cases h : p.threshold ≤ roundScore list
  · have ha : ({ p with score := roundScore list } : Project).advance now =
        .ok (({ p with score := roundScore list } : Project).moveTo .design now) :=
      Project.advance_eq_ok.2 ⟨fun _ => h, .design, by simp only [hc]; rfl, rfl⟩
    simp only [h, if_true, ha, Except.map, UInt8.not_lt.2 h, false_and, or_false, Except.ok.injEq,
      Prod.mk.injEq, true_and]
    constructor
    · rintro ⟨rfl, rfl⟩
      exact ⟨rfl, rfl⟩
    · rintro ⟨rfl, rfl⟩
      exact ⟨rfl, rfl⟩
  · simp only [h, if_false, false_and, false_or, UInt8.not_le.1 h, true_and, Except.ok.injEq,
      Prod.mk.injEq]
    constructor
    · rintro ⟨rfl, rfl⟩
      exact ⟨rfl, rfl⟩
    · rintro ⟨rfl, rfl⟩
      exact ⟨rfl, rfl⟩

theorem change_eq_ok (hc : c.isRevision = true) :
    change l d now p c = .ok (q, o) ↔ Step l d now p c q o := by
  cases c with
  | init name description mode => simp [isRevision] at hc
  | status => simp [isRevision] at hc
  | start s =>
    simp only [change, bind_eq_ok, mapError_eq_ok, Project.requireStage_eq_ok]
    constructor
    · rintro ⟨_, h, ⟨⟩⟩
      exact .started s h
    · intro hs
      cases hs with
      | started _ h => exact ⟨(), h, rfl⟩
  | advance s =>
    simp only [change, bind_eq_ok, mapError_eq_ok, Project.requireStage_eq_ok, completeRound_eq_ok]
    constructor
    · rintro ⟨_, h, hg, rfl, t, ht, rfl⟩
      exact .advanced s t h (h ▸ hg) (h ▸ ht)
    · intro hs
      cases hs with
      | advanced _ t h hg ht => exact ⟨(), h, h ▸ hg, rfl, t, h ▸ ht, rfl⟩
  | clarify scores =>
    simp only [change, bind_eq_ok, mapError_eq_ok, Project.requireStage_eq_ok]
    constructor
    · rintro ⟨_, h, hr⟩
      cases hg : givenScores scores with
      | none =>
        rw [hg] at hr
        cases hr
        exact .outlined scores h hg
      | some list =>
        rw [hg] at hr
        have hr := (scored_eq_ok (p := p.enterRound now) h).1 (mapError_eq_ok.1 hr)
        rw [Project.enterRound_threshold] at hr
        rcases hr with ⟨hs, rfl, rfl⟩ | ⟨hs, rfl, rfl⟩
        · exact .passed scores list h hg hs
        · exact .failed scores list h hg hs
    · intro hs
      cases hs with
      | outlined _ h hg => exact ⟨(), h, by rw [hg]⟩
      | passed _ list h hg hs =>
        refine ⟨(), h, ?_⟩
        rw [hg]
        exact mapError_eq_ok.2 ((scored_eq_ok (p := p.enterRound now) h).2 (Or.inl ⟨hs, rfl, rfl⟩))
      | failed _ list h hg hs =>
        refine ⟨(), h, ?_⟩
        rw [hg]
        exact mapError_eq_ok.2 ((scored_eq_ok (p := p.enterRound now) h).2 (Or.inr ⟨hs, rfl, rfl⟩))
  | validate =>
    simp only [change, bind_eq_ok, mapError_eq_ok, Project.requireStage_eq_ok, Project.finish_eq_ok]
    constructor
    · rintro ⟨_, h, _, ha, _, ⟨-, rfl⟩, ⟨⟩⟩
      exact .validated h ha
    · intro hs
      cases hs with
      | validated h ha => exact ⟨(), h, (), ha, _, ⟨h, rfl⟩, rfl⟩

theorem change_advance_eq_error {s : Stage} {e : Failure}
    (h : change l d now p (advance s) = .error e) : ∃ reason, e = .refused reason := by
  simp only [change, bind, Except.bind] at h
  cases hr : p.requireStage s with
  | error reason =>
    simp only [hr, Session.mapError_error, Except.error.injEq] at h
    exact ⟨reason, h.symm⟩
  | ok u =>
    cases hq : completeRound p now with
    | error reason =>
      simp only [hr, hq, Session.mapError_ok, Session.mapError_error, Except.error.injEq] at h
      exact ⟨reason, h.symm⟩
    | ok r => simp [hr, hq] at h

end Command

end StageGate
