import StageGate.Proofs.Clarity.Bound
import StageGate.Proofs.History

/-!
The clarity gate. In every project that commands can make, the score meets the threshold exactly when
the project is past clarify. So the advance out of clarify is always refused, and the only way on is a
round of judgement whose own score meets the threshold.
-/

set_option autoImplicit false

namespace StageGate

open Session Store

/-- The project is past the gate exactly when its score meets the threshold, and has no score before. -/
structure Project.Gated (p : Project) : Prop where
  met_iff : p.threshold ≤ p.score ↔ Stage.clarify.position < p.stage.position
  unscored : p.stage.position < Stage.clarify.position → p.score = 0
  bounded : p.score ≤ Clarity.maxScore

namespace Project.Gated

variable {l : Layout} {d : Disk} {now : Instant} {p q : Project} {c : Command} {o : Outcome}

theorem created (name description : String) (mode : Mode) (now : Instant) :
    (Command.created name description mode now).Gated where
  met_iff := by
    have ht : (Command.created name description mode now).threshold = mode.threshold := rfl
    have hs : (Command.created name description mode now).score = 0 := rfl
    have hp : (Command.created name description mode now).stage = .propose := rfl
    rw [ht, hs, hp]
    cases mode <;> decide
  unscored _ := rfl
  bounded := show (0 : UInt8) ≤ Clarity.maxScore by decide

theorem congr (h : p.Gated) (ht : q.threshold = p.threshold) (hs : q.score = p.score)
    (hp : q.stage = p.stage) : q.Gated where
  met_iff := by rw [ht, hs, hp]; exact h.met_iff
  unscored hq := by rw [hs]; exact h.unscored (hp ▸ hq)
  bounded := by rw [hs]; exact h.bounded

theorem not_met_at_clarify (h : p.Gated) (hp : p.stage = .clarify) : ¬ p.threshold ≤ p.score := by
  rw [h.met_iff, hp]
  exact Nat.lt_irrefl _

theorem step (h : p.Gated) (hs : Command.Step l d now p c q o) : (q.stamped now).Gated := by
  suffices hq : q.Gated from hq.congr rfl rfl rfl
  cases hs with
  | started s hp => exact h.congr rfl rfl rfl
  | outlined scores hp hg => exact h.congr rfl rfl rfl
  | validated hp ha => exact h.congr rfl rfl rfl
  | advanced s t hp hg ht =>
    have hne : p.stage ≠ .clarify := fun hc => h.not_met_at_clarify hc (hg (hp ▸ hc))
    have hpos := Stage.position_of_next? (hp ▸ ht)
    have hat : p.stage.position ≠ Stage.clarify.position := mt Stage.position_inj hne
    constructor
    · simp only [moveTo_threshold, moveTo_score, moveTo_stage, ensureRound_threshold, ensureRound_score,
        h.met_iff]
      omega
    · simp only [moveTo_stage, moveTo_score, ensureRound_score]
      exact fun hlt => h.unscored (by omega)
    · simpa using h.bounded
  | passed scores list hp hg hs =>
    constructor
    · simp only [moveTo_stage]
      exact iff_of_true hs (by decide)
    · simp only [moveTo_stage]
      exact fun hlt => absurd hlt (by decide)
    · exact Clarity.score_round_le list
  | failed scores list hp hg hs =>
    constructor
    · exact iff_of_false (UInt8.not_le.2 hs) (by simp [hp])
    · exact fun hlt => by simp [hp] at hlt
    · exact Clarity.score_round_le list

theorem advance_refused (h : p.Gated) (d : Disk) (now : Instant) :
    ∃ reason, Command.change l d now p (.advance .clarify) = .error (.refused reason) := by
  cases hc : Command.change l d now p (.advance .clarify) with
  | error e =>
    obtain ⟨reason, rfl⟩ := Command.change_advance_eq_error hc
    exact ⟨reason, rfl⟩
  | ok r =>
    obtain ⟨q, o⟩ := r
    cases (Command.change_eq_ok rfl).1 hc with
    | advanced _ t hp hg _ => exact absurd (hg rfl) (h.not_met_at_clarify hp)

theorem leaves_clarify (h : p.Gated) (hp : p.stage = .clarify) (hq : q.stage ≠ .clarify)
    (hs : Command.Step l d now p c q o) :
    ∃ scores list, c = .clarify scores ∧ Command.givenScores scores = some list ∧
      o = .gatePassed q.score q.threshold ∧ q.score = Command.roundScore list ∧
      q.threshold ≤ q.score := by
  cases hs with
  | started s _ => exact absurd hp hq
  | outlined scores _ hg => exact absurd hp hq
  | failed scores list _ hg hs => exact absurd hp hq
  | advanced s t hs hg ht => exact absurd (hg (hs ▸ hp)) (h.not_met_at_clarify hp)
  | passed scores list _ hg hs => exact ⟨scores, list, rfl, hg, rfl, rfl, hs⟩
  | validated hv ha => simp [hp] at hv

end Project.Gated

variable {l : Layout} {start w : Surroundings} {calls : List Call}

theorem Project.Gated.call_leaves_clarify {p q : Project} {c : Command} (h : p.Gated)
    (hp : project? l w.disk = some p) (hc : p.stage = .clarify)
    (hq : project? l (c.call l w).after.disk = some q) (hne : q.stage ≠ .clarify) :
    ∃ scores list, c = .clarify scores ∧ Command.givenScores scores = some list ∧
      (c.call l w).result = .ok (.gatePassed q.score q.threshold) ∧
      q.score = Command.roundScore list ∧ q.threshold ≤ q.score := by
  rcases Command.call_cases hp hq with rfl | ⟨r, o, hs, rfl, hr⟩
  · exact absurd hc hne
  · obtain ⟨scores, list, rfl, hg, rfl, hs, ht⟩ := h.leaves_clarify (q := r) hc hne hs
    exact ⟨scores, list, rfl, hg, hr, hs, ht⟩

theorem Project.Gated.exec_advance_clarify {p : Project} (h : p.Gated)
    (hp : project? l w.disk = some p) :
    ∃ reason next, exec ((Command.advance .clarify).run l) w = (.error (.refused reason), next) ∧
      next.disk = w.disk := by
  obtain ⟨reason, hr⟩ := h.advance_refused (l := l) w.disk w.now
  obtain ⟨next, hx, hd⟩ := Command.exec_run_of_change_error rfl (project?_eq_some.1 hp) hr
  exact ⟨reason, next, hx, hd⟩

/-- Once a project has been made, its score meets the threshold exactly when it is past clarify, is zero
before clarify and never more than a hundred. The advance out of clarify is refused, and a call that
leads out of clarify is a round of judgement whose own score meets the threshold. -/
theorem History.clarity_gate (h : History l start calls w) (hb : ∃ c ∈ calls, c.Begins) :
    ∃ p, project? l w.disk = some p ∧
      (p.threshold ≤ p.score ↔ Stage.clarify.position < p.stage.position) ∧
      (p.stage.position < Stage.clarify.position → p.score = 0) ∧ p.score ≤ 100 ∧
      (∃ reason next, exec ((Command.advance .clarify).run l) w = (.error (.refused reason), next) ∧
        next.disk = w.disk) ∧
      ∀ (c : Command) (q : Project), p.stage = .clarify → project? l (c.call l w).after.disk = some q →
        q.stage ≠ .clarify → ∃ scores list, c = .clarify scores ∧
          Command.givenScores scores = some list ∧
          (c.call l w).result = .ok (.gatePassed q.score q.threshold) ∧
          q.score = Command.roundScore list ∧ q.threshold ≤ q.score := by
  obtain ⟨p, hp, hg⟩ := h.invariant Project.Gated.created (fun _ _ _ _ _ _ hi hs => hi.step hs) hb
  have hm : Clarity.maxScore = 100 := rfl
  exact ⟨p, hp, hg.met_iff, hg.unscored, hm ▸ hg.bounded, hg.exec_advance_clarify hp,
    fun _ _ hc hq hne => hg.call_leaves_clarify hp hc hq hne⟩

/-- A project at the gate, and the round of judgement that leads it through. -/
theorem History.clarity_gate_emptyRoot :
    let l := Layout.standard ⟨""⟩
    ∃ calls w p q, History l (fresh emptyRoot newYear) calls w ∧ (∃ c ∈ calls, c.Begins) ∧
      project? l w.disk = some p ∧ p.stage = .clarify ∧
      (p.threshold ≤ p.score ↔ Stage.clarify.position < p.stage.position) ∧ ¬ p.threshold ≤ p.score ∧
      let round := (Command.clarify (some fullScores)).call l w
      project? l round.after.disk = some q ∧ q.stage = .design ∧ q.score = 100 ∧
      (q.threshold ≤ q.score ↔ Stage.clarify.position < q.stage.position) ∧ q.threshold ≤ q.score ∧
      q.score ≤ 100 ∧ round.result = .ok (.gatePassed q.score q.threshold) ∧
      ∃ reason next, exec ((Command.advance .clarify).run l) round.after =
        (.error (.refused reason), next) ∧ next.disk = round.after.disk := by
  intro l
  obtain ⟨calls, w, p, h, ⟨c, hm, hb⟩, hp, hc⟩ := exists_at_gate
  obtain ⟨q, hq, hd, hs⟩ :=
    Command.exists_call_passed hp hc givenScores_fullScores (threshold_le_fullScores p.mode)
  obtain ⟨p', hp', hat, -, -, -, hleaves⟩ := History.clarity_gate h ⟨c, hm, hb⟩
  obtain rfl : p = p' := Option.some.inj (hp.symm.trans hp')
  obtain ⟨q', hq', hpast, -, hbound, hrefused, -⟩ :=
    History.clarity_gate (h.call _) ⟨c, List.mem_append_left _ hm, hb⟩
  obtain rfl : q = q' := Option.some.inj (hq.symm.trans hq')
  obtain ⟨_, _, -, -, hr, -, hmet⟩ := hleaves _ q hc hq (by simp [hd])
  have hnot : ¬ p.threshold ≤ p.score := fun hle => by simpa [hc] using hat.1 hle
  exact ⟨calls, w, p, q, h, ⟨c, hm, hb⟩, hp, hc, hat, hnot, hq, hd, hs.trans roundScore_fullScores,
    hpast, hmet, hbound, hr, hrefused⟩

end StageGate
