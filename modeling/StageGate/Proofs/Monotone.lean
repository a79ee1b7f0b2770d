import StageGate.Proofs.Shape
import StageGate.Proofs.Store.RoundTrip

/-!
Progress only grows. Whatever project is on the disk at first, later projects go by its name, stand at its
stage or further on, and have kept what it had: times at which work began, rounds that were counted, and all
entries of the stages that were passed. The score changes with a round of judgement only.
-/

set_option autoImplicit false

namespace StageGate

open Session Store

namespace Entry

variable {e f g : Entry}

theorem le_countRound (n : UInt32) : n ≤ countRound n := by
  have hn := toNat_countRound n
  have hlt := n.toNat_lt
  rw [UInt32.le_iff_toNat_le]
  omega

/-- The entry at some later time. -/
structure Later (e f : Entry) : Prop where
  startedAt : ∀ t, e.startedAt = some t → f.startedAt = some t
  rounds : e.rounds ≤ f.rounds
  not_pending : e.status ≠ .pending → f.status ≠ .pending

namespace Later

theorem refl (e : Entry) : e.Later e := ⟨fun _ => id, UInt32.le_refl _, id⟩

theorem trans (h : e.Later f) (h' : f.Later g) : e.Later g where
  startedAt t ht := h'.startedAt t (h.startedAt t ht)
  rounds := UInt32.le_trans h.rounds h'.rounds
  not_pending hs := h'.not_pending (h.not_pending hs)

theorem enter (now : Instant) (e : Entry) : e.Later (e.enter now) where
  startedAt t ht := by simp [Entry.enter, ht]
  rounds := le_countRound e.rounds
  not_pending _ := by simp

theorem complete (now : Instant) (e : Entry) : e.Later (e.complete now) where
  startedAt _ := id
  rounds := UInt32.le_refl _
  not_pending _ := by simp

end Later

end Entry

namespace Project

variable {p q r : Project} {s t : Stage} {now : Instant}

structure Later (p q : Project) : Prop where
  name : q.name = p.name
  description : q.description = p.description
  version : q.version = p.version
  mode : q.mode = p.mode
  createdAt : q.createdAt = p.createdAt
  stage : p.stage.position ≤ q.stage.position
  entries : ∀ s, (p.entries s).Later (q.entries s)
  passed : ∀ s, s.position < p.stage.position → q.entries s = p.entries s

namespace Later

theorem refl (p : Project) : p.Later p :=
  ⟨rfl, rfl, rfl, rfl, rfl, Nat.le_refl _, fun _ => .refl _, fun _ _ => rfl⟩

theorem trans (h : p.Later q) (h' : q.Later r) : p.Later r where
  name := h'.name.trans h.name
  description := h'.description.trans h.description
  version := h'.version.trans h.version
  mode := h'.mode.trans h.mode
  createdAt := h'.createdAt.trans h.createdAt
  stage := Nat.le_trans h.stage h'.stage
  entries s := (h.entries s).trans (h'.entries s)
  passed s hs := (h'.passed s (Nat.lt_of_lt_of_le hs h.stage)).trans (h.passed s hs)

theorem stamped (p : Project) (now : Instant) : p.Later (p.stamped now) :=
  ⟨rfl, rfl, rfl, rfl, rfl, Nat.le_refl _, fun _ => .refl _, fun _ _ => rfl⟩

theorem scored (p : Project) (score : UInt8) : p.Later { p with score } :=
  ⟨rfl, rfl, rfl, rfl, rfl, Nat.le_refl _, fun _ => .refl _, fun _ _ => rfl⟩

theorem atStage (h : p.stage.position ≤ t.position) : p.Later { p with stage := t } :=
  ⟨rfl, rfl, rfl, rfl, rfl, h, fun _ => .refl _, fun _ _ => rfl⟩

theorem updateEntry {f : Entry → Entry} (hs : p.stage.position ≤ s.position)
    (hf : ∀ e : Entry, e.Later (f e)) : p.Later (p.updateEntry s f) where
  name := rfl
  description := rfl
  version := rfl
  mode := rfl
  createdAt := rfl
  stage := Nat.le_refl _
  entries t := by
    by_cases ht : t = s
    · subst ht
      rw [updateEntry_entries_self]
      exact hf _
    · rw [updateEntry_entries_of_ne ht]
      exact .refl _
  passed t ht := updateEntry_entries_of_ne (ne_of_position_lt (Nat.lt_of_lt_of_le ht hs))

theorem enterRound (p : Project) (now : Instant) : p.Later (p.enterRound now) :=
  .updateEntry (Nat.le_refl _) (.enter now)

theorem ensureRound (p : Project) (now : Instant) : p.Later (p.ensureRound now) := by
  rw [Project.ensureRound]
  split
  · exact enterRound p now
  · exact refl p

theorem moveTo (ht : p.stage.next? = some t) (now : Instant) : p.Later (p.moveTo t now) := by
  have hpos : p.stage.position ≤ t.position := by
    rw [Stage.position_of_next? ht]
    exact Nat.le_succ _
  have hleft : p.Later (p.updateEntry p.stage (·.complete now)) :=
    updateEntry (Nat.le_refl _) (.complete now)
  have hat : (p.updateEntry p.stage (·.complete now)).Later
      { p.updateEntry p.stage (·.complete now) with stage := t } := atStage hpos
  exact (hleft.trans hat).trans (updateEntry (Nat.le_refl _) (.enter now))

variable {l : Layout} {d : Disk} {c : Command} {o : Outcome}

theorem step (h : Command.Step l d now p c q o) : p.Later q := by
  cases h with
  | started s hp => exact enterRound p now
  | outlined scores hp hg => exact enterRound p now
  | failed scores list hp hg hs => exact (enterRound p now).trans (scored _ _)
  | advanced s t hp hg ht =>
    refine (ensureRound p now).trans (moveTo ?_ now)
    rw [ensureRound_stage, hp]
    exact ht
  | passed scores list hp hg hs =>
    refine ((enterRound p now).trans (scored _ _)).trans (moveTo ?_ now)
    simp only [enterRound_stage, hp]
    rfl
  | validated hp ha =>
    have hat : (p.enterRound now).stage.position ≤ Stage.validate.position :=
      Nat.le_of_eq (congrArg Stage.position hp)
    exact (enterRound p now).trans (updateEntry hat (.complete now))

end Later

end Project

namespace Command

variable {l : Layout} {d : Disk} {w : Surroundings} {now : Instant} {p q : Project} {c : Command}
  {o : Outcome}

theorem Step.stage_eq_or_next (h : Step l d now p c q o) :
    q.stage = p.stage ∨ p.stage.next? = some q.stage := by
  cases h with
  | advanced s t hp hg ht => exact Or.inr (hp ▸ ht)
  | passed scores list hp hg hs => exact Or.inr (by rw [hp]; rfl)
  | _ => exact Or.inl rfl

theorem exists_text_of_givenScores {scores : Option String} {list : String}
    (h : givenScores scores = some list) :
    ∃ text, scores = some text ∧ Text.isBlankText text = false := by
  cases scores with
  | none => simp [givenScores] at h
  | some text =>
    refine ⟨text, rfl, ?_⟩
    cases hb : Text.isBlankText text with
    | false => rfl
    | true => simp [givenScores, Text.trimmed_eq_empty_iff.2 hb] at h

theorem Step.score_eq_or_given (h : Step l d now p c q o) :
    q.score = p.score ∨ ∃ text, c = clarify (some text) ∧ Text.isBlankText text = false := by
  have hgiven {scores : Option String} {list : String} (hg : givenScores scores = some list) :
      ∃ text, clarify scores = clarify (some text) ∧ Text.isBlankText text = false := by
    obtain ⟨text, rfl, hb⟩ := exists_text_of_givenScores hg
    exact ⟨text, rfl, hb⟩
  cases h with
  | passed scores list hp hg hs => exact Or.inr (hgiven hg)
  | failed scores list hp hg hs => exact Or.inr (hgiven hg)
  | advanced s t hp hg ht => exact Or.inl (by simp)
  | _ => exact Or.inl rfl

theorem call_later (hp : project? l w.disk = some p) (c : Command) :
    ∃ q, project? l (c.call l w).after.disk = some q ∧ p.Later q ∧
      (q.stage = p.stage ∨ p.stage.next? = some q.stage) ∧
      (q.score = p.score ∨ ∃ text, c = clarify (some text) ∧ Text.isBlankText text = false) := by
  have he := effect_call l c w
  generalize (c.call l w).result = result, (c.call l w).after = after at he ⊢
  cases he with
  | refused e _ h => exact ⟨p, h.trans hp, .refl p, Or.inl rfl, Or.inl rfl⟩
  | looked _ _ h => exact ⟨p, by rw [h, hp], .refl p, Or.inl rfl, Or.inl rfl⟩
  | began _ _ _ _ _ h _ => simp [h] at hp
  | changed p' q o _ h hs hn =>
    obtain rfl : p = p' := by simpa [hp] using h
    exact ⟨_, hn, (Project.Later.step hs).trans (.stamped q _), hs.stage_eq_or_next,
      hs.score_eq_or_given⟩

end Command

namespace History

variable {l : Layout} {start w : Surroundings} {calls : List Call} {p : Project}

/-- Whatever project is loaded at first, it only grows: from the first call to the last one, over each call
and from there on. Each call leaves it at its stage or takes it to the next one, and the score changes only in
a clarify to which scores are given. -/
theorem only_grows (h : History l start calls w) (hp : project? l start.disk = some p) :
    ∃ q, project? l w.disk = some q ∧ p.Later q ∧
      ∀ c ∈ calls, ∃ r r', project? l c.before.disk = some r ∧ project? l c.after.disk = some r' ∧
        p.Later r ∧ r.Later r' ∧ r'.Later q ∧
        (r'.stage = r.stage ∨ r.stage.next? = some r'.stage) ∧
        (r'.score = r.score ∨
          ∃ text, c.command = .clarify (some text) ∧ Text.isBlankText text = false) := by
  induction h with
  | nil => exact ⟨p, hp, .refl p, by simp⟩
  | @call calls w c _ ih =>
    obtain ⟨q, hq, hl, hcalls⟩ := ih
    obtain ⟨q', hq', hl', hstage, hscore⟩ := Command.call_later hq c
    refine ⟨q', hq', hl.trans hl', fun b hb => ?_⟩
    rcases List.mem_append.1 hb with hb | hb
    · obtain ⟨r, r', hr, hr', hpr, hrr, hrq, hrest⟩ := hcalls b hb
      exact ⟨r, r', hr, hr', hpr, hrr, hrq.trans hl', hrest⟩
    · obtain rfl := List.mem_singleton.1 hb
      exact ⟨q, q', hq, hq', hl, hl', .refl q', hstage, hscore⟩
  | between _ hu ih =>
    rw [project?_of_untouched hu]
    exact ih

theorem only_grows_strange :
    let l := Layout.standard ⟨""⟩
    ∃ start calls w q, History l start calls w ∧ project? l start.disk = some strange ∧
      project? l w.disk = some q ∧ q.stage = .propose ∧ strange.Later q ∧
      ∀ c ∈ calls, ∃ r r', project? l c.before.disk = some r ∧ project? l c.after.disk = some r' ∧
        strange.Later r ∧ r.Later r' ∧ r'.Later q := by
  intro l
  have hhalf : halfWritten.find l.projectFile = .ok (.file "\x7b".toUTF8) := by decide +kernel
  have hw : l.Writable halfWritten := .of_file hhalf
  obtain ⟨start, -, -, hf⟩ := save_of_writable (w := fresh halfWritten leapSecond) hw strange
  have hp : project? l start.disk = some strange := project?_eq_some.2 (read_of_find hf)
  have hnil : History l start [] start := .nil
  -- a round at the stage that no command comes from, and then on, with the clock set back
  obtain ⟨calls, w, h, hq⟩ := hnil.extend hp rfl leapSecond (.started .init rfl)
  obtain ⟨calls, w, h, hq⟩ := h.extend hq rfl newYear (.advanced .init .propose rfl (by simp) rfl)
  obtain ⟨q, hq', hl, hcalls⟩ := only_grows h hp
  obtain rfl := Option.some.inj (hq.symm.trans hq')
  refine ⟨start, calls, w, _, h, hp, hq, rfl, hl, fun c hc => ?_⟩
  obtain ⟨r, r', hr, hr', hpr, hrr, hrq, -⟩ := hcalls c hc
  exact ⟨r, r', hr, hr', hpr, hrr, hrq⟩

end History

end StageGate
