import StageGate.Proofs.History

/-!
The shape of projects. Stages before the one at which a project stands are completed, those after it are
untouched, and the stage itself is in progress, but for a proposal that has not been begun and a
validation that is over.
-/

set_option autoImplicit false

namespace StageGate

open Session Store

namespace Entry

structure Begun (e : Entry) : Prop where
  started : e.startedAt.isSome
  rounds : 1 ≤ e.rounds

structure Finished (e : Entry) : Prop extends Begun e where
  status : e.status = .completed
  completed : e.completedAt.isSome

variable {e : Entry}

theorem one_le_countRound (n : UInt32) : 1 ≤ countRound n := by
  have hn := toNat_countRound n
  rw [UInt32.le_iff_toNat_le, hn]
  simp only [UInt32.toNat_one]
  omega

theorem begun_enter (now : Instant) (e : Entry) : (e.enter now).Begun where
  started := rfl
  rounds := one_le_countRound e.rounds

theorem Begun.complete (h : e.Begun) (now : Instant) : (e.complete now).Finished where
  started := h.started
  rounds := h.rounds
  status := rfl
  completed := rfl

end Entry

namespace Project

variable {p q : Project} {now : Instant} {s t : Stage}

/-- What commands make of a project: only the proposal can be at hand and not begun, and only the
validation at hand and finished; it stays at hand, and may be begun again. -/
structure Shaped (p : Project) : Prop where
  not_init : p.stage ≠ .init
  before : ∀ s, s.position < p.stage.position → (p.entries s).Finished
  after : ∀ s, p.stage.position < s.position → p.entries s = .untouched
  atHand : (p.stage = .propose ∧ p.current = .untouched) ∨
    (p.stage = .validate ∧ p.current.Finished) ∨
    (p.current.status = .inProgress ∧ p.current.Begun ∧
      (p.stage ≠ .validate → p.current.completedAt = none))

theorem ne_of_position_lt (h : s.position < t.position) : s ≠ t := fun he =>
  Nat.lt_irrefl _ (he ▸ h)

theorem enterRound_entries_of_ne (h : s ≠ p.stage) : (p.enterRound now).entries s = p.entries s :=
  updateEntry_entries_of_ne h

theorem enterRound_current (p : Project) (now : Instant) :
    (p.enterRound now).current = p.current.enter now := updateEntry_entries_self p p.stage _

theorem ensureRound_entries_of_ne (h : s ≠ p.stage) :
    (p.ensureRound now).entries s = p.entries s := by
  rw [ensureRound]
  split
  · exact enterRound_entries_of_ne h
  · rfl

theorem moveTo_entries (p : Project) (ht : t ≠ p.stage) (s : Stage) :
    (p.moveTo t now).entries s =
      if s = t then (p.entries t).enter now
      else if s = p.stage then p.current.complete now else p.entries s := by
  by_cases hs : s = t
  · subst hs
    rw [if_pos rfl]
    simp [moveTo, updateEntry, ht]
  · rw [if_neg hs]
    by_cases hp : s = p.stage
    · subst hp
      simp [moveTo, updateEntry, hs, current]
    · simp [moveTo, updateEntry, hs, hp]

namespace Shaped

theorem congr (h : p.Shaped) (hs : q.stage = p.stage) (he : q.entries = p.entries) : q.Shaped where
  not_init := hs ▸ h.not_init
  before := by rw [hs, he]; exact h.before
  after := by rw [hs, he]; exact h.after
  atHand := by rw [current, hs, he]; exact h.atHand

theorem created (name description : String) (mode : Mode) (now : Instant) :
    (Command.created name description mode now).Shaped where
  not_init := fun h : Stage.propose = .init => by cases h
  before s hs := by
    have hs : s.position < Stage.propose.position := hs
    cases s with
    | init => exact (Entry.begun_enter now .untouched).complete now
    | _ => exact absurd hs (by decide)
  after s hs := by
    have hs : Stage.propose.position < s.position := hs
    cases s with
    | init => exact absurd hs (by decide)
    | _ => rfl
  atHand := Or.inl ⟨rfl, rfl⟩

theorem enterRound (h : p.Shaped) (now : Instant) : (p.enterRound now).Shaped where
  not_init := h.not_init
  before s hs := by
    rw [enterRound_entries_of_ne (p := p) (ne_of_position_lt hs)]
    exact h.before s hs
  after s hs := by
    rw [enterRound_entries_of_ne (p := p) (ne_of_position_lt hs).symm]
    exact h.after s hs
  atHand := by
    rw [enterRound_current]
    refine Or.inr (Or.inr ⟨rfl, Entry.begun_enter now _, fun hv => ?_⟩)
    rcases h.atHand with ⟨-, hc⟩ | ⟨hs, -⟩ | ⟨-, -, hc⟩
    · rw [hc]
      rfl
    · exact absurd hs hv
    · exact hc hv

theorem begun_ensureRound (h : p.Shaped) (now : Instant) : (p.ensureRound now).current.Begun := by
  rw [ensureRound]
  split
  · rw [enterRound_current]
    exact Entry.begun_enter now _
  · next hp =>
    rcases h.atHand with ⟨-, hc⟩ | ⟨-, hc⟩ | ⟨-, hc, -⟩
    · simp [hc, Entry.untouched] at hp
    · exact hc.toBegun
    · exact hc

theorem moveTo (hb : ∀ s, s.position < p.stage.position → (p.entries s).Finished)
    (ha : ∀ s, p.stage.position < s.position → p.entries s = .untouched) (hc : p.current.Begun)
    (ht : p.stage.next? = some t) : (p.moveTo t now).Shaped := by
  have hpos := Stage.position_of_next? ht
  have hne : t ≠ p.stage := fun he => by rw [he] at hpos; omega
  have htu : p.entries t = .untouched := ha t (by omega)
  constructor
  · intro hi
    rw [moveTo_stage] at hi
    rw [hi] at hpos
    simp [Stage.position] at hpos
  · intro s hs
    rw [moveTo_stage] at hs
    rw [moveTo_entries p hne, if_neg (ne_of_position_lt hs)]
    split
    · exact hc.complete now
    · next hsp =>
      have : s.position ≠ p.stage.position := mt Stage.position_inj hsp
      exact hb s (by omega)
  · intro s hs
    rw [moveTo_stage] at hs
    have hsp : p.stage.position < s.position := by omega
    rw [moveTo_entries p hne, if_neg (ne_of_position_lt hs).symm, if_neg (ne_of_position_lt hsp).symm]
    exact ha s hsp
  · have hcur : (p.moveTo t now).current = Entry.enter now .untouched := by
      rw [current, moveTo_stage, moveTo_entries p hne, if_pos rfl, htu]
    rw [hcur]
    exact Or.inr (Or.inr ⟨rfl, Entry.begun_enter now _, fun _ => rfl⟩)

theorem finish (h : p.Shaped) (hp : p.stage = .validate) :
    (p.updateEntry .validate (·.complete now)).Shaped where
  not_init := h.not_init
  before s hs := by
    have hne : s ≠ .validate := hp ▸ ne_of_position_lt hs
    rw [updateEntry_entries_of_ne hne]
    exact h.before s hs
  after s hs := by
    have hne : s ≠ .validate := hp ▸ (ne_of_position_lt hs).symm
    rw [updateEntry_entries_of_ne hne]
    exact h.after s hs
  atHand := by
    have hb : p.current.Begun := by
      rcases h.atHand with ⟨hs, -⟩ | ⟨-, hc⟩ | ⟨-, hc, -⟩
      · simp [hp] at hs
      · exact hc.toBegun
      · exact hc
    have hc : (p.updateEntry .validate (·.complete now)).current = p.current.complete now := by
      rw [current, current, updateEntry_stage, hp, updateEntry_entries_self]
    rw [hc]
    exact Or.inr (Or.inl ⟨hp, hb.complete now⟩)

variable {l : Layout} {d : Disk} {c : Command} {o : Outcome}

theorem step (h : p.Shaped) (hs : Command.Step l d now p c q o) : (q.stamped now).Shaped := by
  suffices hq : q.Shaped from hq.congr rfl rfl
  cases hs with
  | started s hp => exact h.enterRound now
  | outlined scores hp hg => exact h.enterRound now
  | failed scores list hp hg hs => exact (h.enterRound now).congr rfl rfl
  | advanced s t hp hg ht =>
    apply moveTo
    · intro s hs
      rw [ensureRound_stage] at hs
      rw [ensureRound_entries_of_ne (ne_of_position_lt hs)]
      exact h.before s hs
    · intro s hs
      rw [ensureRound_stage] at hs
      rw [ensureRound_entries_of_ne (ne_of_position_lt hs).symm]
      exact h.after s hs
    · exact h.begun_ensureRound now
    · rw [ensureRound_stage, hp]
      exact ht
  | passed scores list hp hg hs =>
    have hr := h.enterRound now
    refine moveTo (p := { p.enterRound now with score := _ }) hr.before hr.after ?_ ?_
    · have hb : (p.enterRound now).current.Begun := by
        rw [enterRound_current]
        exact Entry.begun_enter now _
      exact hb
    · simp only [enterRound_stage, hp]
      rfl
  | validated hp ha =>
    exact (h.enterRound now).finish hp

theorem not_skipped (h : p.Shaped) (s : Stage) : (p.entries s).status ≠ .skipped := by
  rcases Nat.lt_trichotomy s.position p.stage.position with hs | hs | hs
  · simp [(h.before s hs).status]
  · have hc : p.entries s = p.current := by rw [current, Stage.position_inj hs]
    rw [hc]
    rcases h.atHand with ⟨-, hc⟩ | ⟨-, hc⟩ | ⟨hc, -⟩
    · simp [hc, Entry.untouched]
    · simp [hc.status]
    · simp [hc]
  · simp [h.after s hs, Entry.untouched]

end Shaped

end Project

variable {l : Layout} {start w : Surroundings} {calls : List Call}

theorem completedAt_of_start {p q : Project} {s : Stage} (hp : project? l w.disk = some p)
    (hq : project? l ((Command.start s).call l w).after.disk = some q) :
    q.current.completedAt = p.current.completedAt := by
  rcases Command.call_cases hp hq with rfl | ⟨r, o, hs, rfl, -⟩
  · rfl
  · cases hs with
    | started _ _ =>
      have hc : ((p.enterRound w.now).stamped w.now).current = p.current.enter w.now :=
        p.enterRound_current w.now
      rw [hc]
      rfl

/-- Once a project has been made, it has the shape that commands give to projects, and no stage of it is
skipped. A start leaves the time of completion as it was. -/
theorem History.shaped (h : History l start calls w) (hb : ∃ c ∈ calls, c.Begins) :
    ∃ p, project? l w.disk = some p ∧ p.Shaped ∧ (∀ s, (p.entries s).status ≠ .skipped) ∧
      ∀ s q, project? l ((Command.start s).call l w).after.disk = some q →
        q.current.completedAt = p.current.completedAt := by
  obtain ⟨p, hp, hs⟩ := h.invariant Project.Shaped.created (fun _ _ _ _ _ _ hi hs => hi.step hs) hb
  exact ⟨p, hp, hs, hs.not_skipped, fun _ _ hq => completedAt_of_start hp hq⟩

/-- Past the gate, the design at hand has begun and the stages before it are completed. -/
theorem History.shaped_emptyRoot :
    let l := Layout.standard ⟨""⟩
    ∃ calls w p, History l (fresh emptyRoot newYear) calls w ∧ (∃ c ∈ calls, c.Begins) ∧
      project? l w.disk = some p ∧ p.stage = .design ∧ p.Shaped ∧
      (p.entries .clarify).Finished ∧ p.current.status = .inProgress ∧ p.entries .tasks = .untouched ∧
      (∀ s, (p.entries s).status ≠ .skipped) ∧
      ∀ s q, project? l ((Command.start s).call l w).after.disk = some q →
        q.current.completedAt = p.current.completedAt := by
  intro l
  obtain ⟨calls, w, p, h, hb, hp, hd⟩ := exists_past_gate
  obtain ⟨p', hp', hs, hskipped, hstart⟩ := History.shaped h hb
  obtain rfl : p = p' := Option.some.inj (hp.symm.trans hp')
  have hclarify : Stage.clarify.position < p.stage.position := by rw [hd]; decide
  have htasks : p.stage.position < Stage.tasks.position := by rw [hd]; decide
  have hcurrent : p.current.status = .inProgress := by
    rcases hs.atHand with ⟨hp, -⟩ | ⟨hv, -⟩ | ⟨hcurrent, -⟩
    · simp [hd] at hp
    · simp [hd] at hv
    · exact hcurrent
  exact ⟨calls, w, p, h, hb, hp, hd, hs, hs.before _ hclarify, hcurrent, hs.after _ htasks, hskipped,
    hstart⟩

end StageGate
