import StageGate.Proofs.Clarity.Average
import StageGate.Proofs.Clarity.Segment
import StageGate.Proofs.Project.Frame
import StageGate.Proofs.Run
import StageGate.Proofs.Store.RoundTrip

/-!
One round of judgement, from the score list to the saved project. The list alone decides the score, by the
last pair for each dimension; the score and the mode decide whether the project moves on; and no more of
the project changes than the round and the move.
-/

set_option autoImplicit false

namespace StageGate

open Session Store

/-! ### The score of a list -/

namespace Clarity

theorem readings_trim (cs : List Char) : readings (Text.trim cs) = readings cs := by
  have hmap (segments : List (List Char)) : segments.map Reading.ofSegment =
      (segments.map Text.trim).map Reading.ofTrimmed := by
    rw [List.map_map]
    rfl
  rw [readings, readings, hmap, hmap, Text.map_trim_split_trim (by decide)]

/-- What a list gives to a dimension that had no score. -/
def earned (list : String) (d : Dimension) : UInt8 := (lastScore? d (readings list.toList)).getD 0

theorem finalScore_earned (list : String) (d : Dimension) :
    FinalScore (Text.split ',' list.toList) d 0 (earned list d) := by
  rw [earned, readings]
  cases hs : lastScore? d ((Text.split ',' list.toList).map Reading.ofSegment) with
  | none => exact .kept (lastScore?_eq_none_iff.1 hs)
  | some score =>
    obtain ⟨n, hn, rfl⟩ := lastScore?_eq_some_iff.1 hs
    exact .paired n _ hn (toNat_clampScore n)

def ratingsOf (e : Dimension → UInt8) : List Rating := Dimension.all.map fun d => ⟨d, d.weight, e d⟩

theorem ratings_applyScores_trimmed (list : String) :
    (applyScores (Text.trimmed list) blankRatings).ratings = ratingsOf (earned list) := by
  rw [applyScores, Text.trimmed, String.toList_ofList, readings_trim, blankRatings, List.map_map]
  refine List.map_congr_left fun d _ => ?_
  rw [Function.comp_apply, Rating.withReadings, earned]
  cases lastScore? d (readings list.toList) <;> rfl

def weighted (e : Dimension → UInt8) : Nat :=
  (Dimension.all.map fun d => d.weight.toNat * (e d).toNat).sum

theorem isRounded_score_ratingsOf (e : Dimension → UInt8) :
    IsRounded (weighted e) 67 (score (ratingsOf e)).toNat := by
  have hsum : weightedSum (ratingsOf e) = weighted e := rfl
  have htotal : totalWeight (ratingsOf e) = 67 := rfl
  rw [toNat_score, hsum, htotal]
  exact isRounded_roundedQuotient _ (by decide)

theorem uncovered_ratingsOf (e : Dimension → UInt8) :
    uncovered (ratingsOf e) = Dimension.all.filter fun d => (e d).toNat ≤ 30 := by
  have hf : coveredFloor.toNat = 30 := rfl
  rw [uncovered, ratingsOf, List.filter_map, List.map_map]
  refine (List.map_id' _).trans (List.filter_congr fun d _ => ?_)
  simp [Rating.isCovered, UInt8.lt_iff_toNat_lt, hf, ← decide_not]

end Clarity

/-! ### What a round changes -/

/-- The project after a judgement that met the threshold: a round of clarify is completed, and one of
design has begun. -/
structure Project.MovesOn (p : Project) (score : UInt8) (now : Instant) (q : Project) : Prop where
  fields : q = { p with stage := .design, score, updatedAt := now, entries := q.entries }
  others : ∀ s, s ≠ .clarify → s ≠ .design → q.entries s = p.entries s
  clarify : (p.entries .clarify).OneRoundMore now (q.entries .clarify)
  clarify_status : (q.entries .clarify).status = .completed
  clarify_completedAt : (q.entries .clarify).completedAt = some now
  design : (p.entries .design).OneRoundMore now (q.entries .design)
  design_status : (q.entries .design).status = .inProgress
  design_completedAt : (q.entries .design).completedAt = (p.entries .design).completedAt

/-- The project after a judgement that fell short: it has seen one round of clarify more. -/
structure Project.Stays (p : Project) (score : UInt8) (now : Instant) (q : Project) : Prop where
  fields : q = { p with score, updatedAt := now, entries := q.entries }
  others : ∀ s, s ≠ .clarify → q.entries s = p.entries s
  clarify : (p.entries .clarify).OneRoundMore now (q.entries .clarify)
  clarify_status : (q.entries .clarify).status = .inProgress
  clarify_completedAt : (q.entries .clarify).completedAt = (p.entries .clarify).completedAt

namespace Project

variable {p : Project}

theorem movesOn_moveTo (hc : p.stage = .clarify) (score : UInt8) (now : Instant) :
    p.MovesOn score now
      ((({ p.enterRound now with score } : Project).moveTo .design now).stamped now) := by
  have hclarify : ((({ p.enterRound now with score } : Project).moveTo .design now).stamped now).entries
      .clarify = ((p.entries .clarify).enter now).complete now := by
    simp [stamped, moveTo, enterRound, updateEntry, hc]
  have hdesign : ((({ p.enterRound now with score } : Project).moveTo .design now).stamped now).entries
      .design = (p.entries .design).enter now := by
    simp [stamped, moveTo, enterRound, updateEntry, hc]
  exact {
    fields := rfl
    others := fun s hs hd => by simp [stamped, moveTo, enterRound, updateEntry, hc, hs, hd]
    clarify := hclarify ▸ Entry.oneRoundMore_complete now _
    clarify_status := hclarify ▸ rfl
    clarify_completedAt := hclarify ▸ rfl
    design := hdesign ▸ Entry.oneRoundMore_enter now _
    design_status := hdesign ▸ rfl
    design_completedAt := hdesign ▸ rfl }

theorem stays_enterRound (hc : p.stage = .clarify) (score : UInt8) (now : Instant) :
    p.Stays score now (({ p.enterRound now with score } : Project).stamped now) := by
  have hclarify : (({ p.enterRound now with score } : Project).stamped now).entries .clarify =
      (p.entries .clarify).enter now := by
    simp [stamped, enterRound, updateEntry, hc]
  exact {
    fields := rfl
    others := fun s hs => by simp [stamped, enterRound, updateEntry, hc, hs]
    clarify := hclarify ▸ Entry.oneRoundMore_enter now _
    clarify_status := hclarify ▸ rfl
    clarify_completedAt := hclarify ▸ rfl }

end Project

/-! ### The command -/

namespace Command

variable {l : Layout} {w : Surroundings} {p : Project} {scores : Option String} {argument : String}

theorem givenScores_eq_none (h : ∀ argument ∈ scores, Text.isBlankText argument = true) :
    givenScores scores = none := by
  cases scores with
  | none => rfl
  | some argument => simp [givenScores, Text.trimmed_eq_empty_iff.2 (h argument rfl)]

theorem givenScores_eq_some (h : Text.isBlankText argument = false) :
    givenScores (some argument) = some (Text.trimmed argument) := by
  have hne : Text.trimmed argument ≠ "" := fun he => by simp [Text.trimmed_eq_empty_iff.1 he] at h
  simp [givenScores, hne]

theorem threshold_pos (p : Project) : 1 ≤ p.threshold.toNat := by
  rw [Project.threshold]
  cases p.mode <;> decide

theorem call_disk_of_change {c : Command} {q : Project} {o : Outcome} (hc : c.isRevision = true)
    (hp : read l w.disk = .ok p) (hq : change l w.disk w.now p c = .ok (q, o)) :
    (c.call l w).after.disk = (saved l q w.disk w.now).2 := by
  rw [call_disk, performed_eq_committed hc hp hq, committed]

theorem call_disk_of_framework (hp : read l w.disk = .ok p) (hc : p.stage = .clarify)
    (hg : givenScores scores = none) :
    ((clarify scores).call l w).after.disk = ((start .clarify).call l w).after.disk := by
  have hframework : change l w.disk w.now p (clarify scores) = .ok (p.enterRound w.now, .framework) :=
    (change_eq_ok rfl).2 (.outlined scores hc hg)
  have hstarted : change l w.disk w.now p (start .clarify) = .ok (p.enterRound w.now, .done) :=
    (change_eq_ok rfl).2 (.started .clarify hc)
  rw [call_disk_of_change rfl hp hframework, call_disk_of_change rfl hp hstarted]

theorem call_judged (hp : project? l w.disk = some p) (hc : p.stage = .clarify)
    (hb : Text.isBlankText argument = false) :
    let e := Clarity.earned argument
    let score := Clarity.score (Clarity.ratingsOf e)
    let call := (clarify (some argument)).call l w
    ∃ q, project? l call.after.disk = some q ∧
      if (2 * p.threshold.toNat - 1) * 67 ≤ 2 * Clarity.weighted e then
        call.result = .ok (.gatePassed score p.threshold) ∧ p.MovesOn score w.now q
      else
        call.result = .ok (.needsClarification score p.threshold
          (Clarity.Dimension.all.filter fun d => (e d).toNat ≤ 30)) ∧ p.Stays score w.now q := by
  intro e score call
  have hgiven := givenScores_eq_some hb
  have hscore : roundScore (Text.trimmed argument) = score := by
    rw [roundScore, Clarity.ratings_applyScores_trimmed]
  have huncovered : roundUncovered (Text.trimmed argument) =
      Clarity.Dimension.all.filter fun d => (e d).toNat ≤ 30 := by
    rw [roundUncovered, Clarity.ratings_applyScores_trimmed, Clarity.uncovered_ratingsOf]
  have hmet : p.threshold ≤ score ↔
      (2 * p.threshold.toNat - 1) * 67 ≤ 2 * Clarity.weighted e := by
    rw [UInt8.le_iff_toNat_le]
    exact (Clarity.isRounded_score_ratingsOf e).le_iff (threshold_pos p)
  by_cases hm : p.threshold ≤ score
  · rw [← hscore] at hm
    obtain ⟨hr, hq⟩ := call_of_step hp (.passed (some argument) _ hc hgiven hm)
    rw [hscore] at hm hr hq
    exact ⟨_, hq, by rw [if_pos (hmet.1 hm)]; exact ⟨hr, Project.movesOn_moveTo hc score w.now⟩⟩
  · have hlt := UInt8.not_le.1 hm
    rw [← hscore] at hlt
    obtain ⟨hr, hq⟩ := call_of_step hp (.failed (some argument) _ hc hgiven hlt)
    rw [hscore, huncovered] at hr
    rw [hscore] at hq
    exact ⟨_, hq, by rw [if_neg (mt hmet.2 hm)]; exact ⟨hr, Project.stays_enterRound hc score w.now⟩⟩

end Command

/-- At clarify, a round of judgement never fails. Without scores it leaves what another start of clarify
leaves. Otherwise every dimension has the score of its last pair in the argument, or none; the score of the
project is the weighted average of these, rounded, whatever it was before; and the project moves on to
design exactly when twice the weighted sum reaches the threshold less a half. -/
theorem clarify_round {l : Layout} {w : Surroundings} {p : Project} (hp : (exec (load l) w).1 = .ok p)
    (hc : p.stage = .clarify) (scores : Option String) :
    let call := (Command.clarify scores).call l w
    let start := (Command.start .clarify).call l w
    let threshold := p.mode.threshold
    ((∀ argument ∈ scores, Text.isBlankText argument = true) →
      call.result = .ok .framework ∧ start.result = .ok .done ∧
        call.after.disk = start.after.disk) ∧
    ∀ argument ∈ scores, Text.isBlankText argument = false →
      ∃ (segments : List (List Char)) (e : Clarity.Dimension → UInt8) (score : UInt8) (q : Project),
        Clarity.CutAtCommas argument segments ∧ (∀ d, Clarity.FinalScore segments d 0 (e d)) ∧
        let sum := (Clarity.Dimension.all.map fun d => d.weight.toNat * (e d).toNat).sum
        Clarity.IsRounded sum 67 score.toNat ∧ (exec (load l) call.after).1 = .ok q ∧
        if (2 * threshold.toNat - 1) * 67 ≤ 2 * sum then
          call.result = .ok (.gatePassed score threshold) ∧ p.MovesOn score w.now q
        else
          call.result = .ok (.needsClarification score threshold
            (Clarity.Dimension.all.filter fun d => (e d).toNat ≤ 30)) ∧ p.Stays score w.now q := by
  intro call start threshold
  have hr : read l w.disk = .ok p := (computes_load l w).1.symm.trans hp
  constructor
  · intro hblank
    have hgiven := Command.givenScores_eq_none hblank
    exact ⟨(Command.call_of_step (project?_eq_some.2 hr) (.outlined scores hc hgiven)).1,
      (Command.call_of_step (project?_eq_some.2 hr) (.started .clarify hc)).1,
      Command.call_disk_of_framework hr hc hgiven⟩
  · rintro argument rfl hb
    obtain ⟨q, hq, hjudged⟩ := Command.call_judged (project?_eq_some.2 hr) hc hb
    refine ⟨_, Clarity.earned argument, _, q, Clarity.cutAtCommas_split argument,
      Clarity.finalScore_earned argument, Clarity.isRounded_score_ratingsOf _, ?_, hjudged⟩
    rw [(computes_load l call.after).1]
    exact project?_eq_some.1 hq

/-- It stands at clarify with a score and counters that no command gives it. -/
def overrated : Project := { strange with stage := .clarify }

def overratedRoot : Disk :=
  halfWritten.put ["root", "sdd", "sdd.json"] (.file overrated.toText.toUTF8)

theorem find_overratedRoot :
    overratedRoot.find (Layout.standard ⟨""⟩).projectFile = .ok (.file overrated.toText.toUTF8) := rfl

theorem clarify_round_overratedRoot :
    let l := Layout.standard ⟨""⟩
    let w := fresh overratedRoot newYear
    let call := (Command.clarify (some " security : 100%")).call l w
    (exec (load l) w).1 = .ok overrated ∧ overrated.stage = .clarify ∧
    ((Command.clarify none).call l w).result = .ok .framework ∧
    ∃ (segments : List (List Char)) (e : Clarity.Dimension → UInt8) (score : UInt8) (q : Project),
      Clarity.CutAtCommas " security : 100%" segments ∧
      (∀ d, Clarity.FinalScore segments d 0 (e d)) ∧ (exec (load l) call.after).1 = .ok q ∧
      (call.result = .ok (.gatePassed score 50) ∧ overrated.MovesOn score newYear q ∨
        call.result = .ok (.needsClarification score 50
          (Clarity.Dimension.all.filter fun d => (e d).toNat ≤ 30)) ∧
        overrated.Stays score newYear q) := by
  intro l w call
  have hp : (exec (load l) w).1 = .ok overrated := by
    rw [(computes_load l w).1]
    exact read_of_find find_overratedRoot
  have hframework := (clarify_round hp rfl none).1 (by simp)
  obtain ⟨segments, e, score, q, hcut, he, -, hq, hjudged⟩ :=
    (clarify_round hp rfl (some " security : 100%")).2 _ rfl (by decide)
  refine ⟨hp, rfl, hframework.1, segments, e, score, q, hcut, he, hq, ?_⟩
  split at hjudged
  · exact Or.inl hjudged
  · exact Or.inr hjudged

end StageGate
