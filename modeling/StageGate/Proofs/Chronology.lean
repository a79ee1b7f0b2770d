import StageGate.Proofs.Monotone
import StageGate.Proofs.Time.Order

/-!
The times of a project are in order. As long as the clock is not set back between the calls that have an
effect, work on a stage begins before it is completed, each stage begins when the one before it is
completed, and nothing is later than the last of those calls.
-/

set_option autoImplicit false

namespace StageGate

open Session Store

namespace Entry

variable {e : Entry} {now clock : Instant}

structure Dated (e : Entry) (clock : Instant) : Prop where
  startedAt : ∀ t, e.startedAt = some t → t ≤ clock
  completedAt : ∀ t, e.completedAt = some t → t ≤ clock
  ordered : ∀ t, e.completedAt = some t → ∃ began, e.startedAt = some began ∧ began ≤ t

namespace Dated

theorem untouched (clock : Instant) : Entry.untouched.Dated clock := by
  constructor <;> simp [Entry.untouched]

theorem later (h : e.Dated clock) (hle : clock ≤ now) : e.Dated now where
  startedAt t ht := (h.startedAt t ht).trans hle
  completedAt t ht := (h.completedAt t ht).trans hle
  ordered := h.ordered

theorem enter (h : e.Dated now) : (e.enter now).Dated now where
  startedAt t ht := by
    cases hs : e.startedAt with
    | none =>
      obtain rfl : now = t := by simpa [Entry.enter, hs] using ht
      exact le_refl now
    | some began =>
      obtain rfl : began = t := by simpa [Entry.enter, hs] using ht
      exact h.startedAt began hs
  completedAt := h.completedAt
  ordered t ht := by
    obtain ⟨began, hs, hle⟩ := h.ordered t ht
    exact ⟨began, by simp [Entry.enter, hs], hle⟩

theorem complete (h : e.Dated now) (hs : e.startedAt.isSome) : (e.complete now).Dated now where
  startedAt := h.startedAt
  completedAt t ht := le_of_eq (Option.some.inj ht).symm
  ordered t ht := by
    obtain ⟨began, hs⟩ := Option.isSome_iff_exists.1 hs
    exact ⟨began, hs, Option.some.inj ht ▸ h.startedAt began hs⟩

end Dated

end Entry

namespace Project

variable {p q : Project} {now clock : Instant} {t : Stage}

/-- The times of a project are in order, and none is after a reading of the clock. -/
structure Dated (p : Project) (clock : Instant) : Prop where
  createdAt : p.createdAt ≤ clock
  startedInit : (p.entries .init).startedAt = some p.createdAt
  completedInit : (p.entries .init).completedAt = some p.createdAt
  proposed : ∀ t, (p.entries .propose).startedAt = some t → p.createdAt ≤ t
  entries : ∀ s, (p.entries s).Dated clock
  linked : ∀ s t, s ≠ .init → s.next? = some t → (p.entries s).status = .completed →
    ∃ left, (p.entries s).completedAt = some left ∧ (p.entries t).startedAt = some left

namespace Dated

theorem congr (h : p.Dated clock) (hc : q.createdAt = p.createdAt) (he : q.entries = p.entries) :
    q.Dated clock where
  createdAt := hc ▸ h.createdAt
  startedInit := by rw [hc, he]; exact h.startedInit
  completedInit := by rw [hc, he]; exact h.completedInit
  proposed := by rw [hc, he]; exact h.proposed
  entries := by rw [he]; exact h.entries
  linked := by rw [he]; exact h.linked

theorem later (h : p.Dated clock) (hle : clock ≤ now) : p.Dated now :=
  { h with
    createdAt := h.createdAt.trans hle
    entries := fun s => (h.entries s).later hle }

theorem created (name description : String) (mode : Mode) (now : Instant) :
    (Command.created name description mode now).Dated now where
  createdAt := le_refl now
  startedInit := rfl
  completedInit := rfl
  proposed t ht := by cases ht
  entries s := by
    cases s with
    | init => exact (Entry.Dated.untouched now).enter.complete rfl
    | _ => exact .untouched now
  linked s t hi _ hc := by
    cases s with
    | init => exact absurd rfl hi
    | _ => cases hc

theorem enterRound (h : p.Dated now) (hi : p.stage ≠ .init) : (p.enterRound now).Dated now where
  createdAt := h.createdAt
  startedInit := by
    rw [enterRound_entries_of_ne hi.symm]
    exact h.startedInit
  completedInit := by
    rw [enterRound_entries_of_ne hi.symm]
    exact h.completedInit
  proposed t ht := by
    by_cases hp : .propose = p.stage
    · cases hs : (p.entries .propose).startedAt with
      | none =>
        have ht : some now = some t := by
          simpa [Project.enterRound, ← hp, Entry.enter, hs] using ht
        exact Option.some.inj ht ▸ h.createdAt
      | some began =>
        have hkept := ((Later.enterRound p now).entries .propose).startedAt began hs
        exact Option.some.inj (hkept.symm.trans ht) ▸ h.proposed began hs
    · rw [enterRound_entries_of_ne hp] at ht
      exact h.proposed t ht
  entries s := by
    by_cases hs : s = p.stage
    · rw [hs, Project.enterRound, updateEntry_entries_self]
      exact (h.entries p.stage).enter
    · rw [enterRound_entries_of_ne hs]
      exact h.entries s
  linked s t hne hn hc := by
    -- the stage at hand is in progress again, so only an earlier one can be completed
    have hs : s ≠ p.stage := by
      rintro rfl
      rw [Project.enterRound, updateEntry_entries_self] at hc
      cases hc
    rw [enterRound_entries_of_ne hs] at hc ⊢
    obtain ⟨left, hleft, hbegan⟩ := h.linked s t hne hn hc
    exact ⟨left, hleft, ((Later.enterRound p now).entries t).startedAt left hbegan⟩

/-- The stage at hand is completed and the next one begun at once. Nothing has begun there before, so its
work begins now. -/
theorem moveTo (h : p.Dated now) (hi : p.stage ≠ .init) (hb : p.current.startedAt.isSome)
    (hu : p.entries t = .untouched) (ht : p.stage.next? = some t) : (p.moveTo t now).Dated now := by
  have hne : t ≠ p.stage := Stage.ne_of_next? ht
  have hentries (s : Stage) : (p.moveTo t now).entries s = _ := moveTo_entries p hne s
  have hlast : (p.moveTo t now).entries p.stage = p.current.complete now := by
    rw [hentries, if_neg hne.symm, if_pos rfl]
  have hnext : (p.moveTo t now).entries t = Entry.enter now .untouched := by rw [hentries, if_pos rfl, hu]
  have hother {s : Stage} (hst : s ≠ t) (hsp : s ≠ p.stage) :
      (p.moveTo t now).entries s = p.entries s := by
    rw [hentries, if_neg hst, if_neg hsp]
  have hinit : (p.moveTo t now).entries .init = p.entries .init := by
    refine hother ?_ hi.symm
    rintro rfl
    exact Stage.next?_ne_init p.stage ht
  constructor
  · exact h.createdAt
  · rw [hinit]
    exact h.startedInit
  · rw [hinit]
    exact h.completedInit
  · intro u hs
    by_cases hpt : .propose = t
    · rw [hpt, hnext] at hs
      exact Option.some.inj hs ▸ h.createdAt
    · by_cases hpp : .propose = p.stage
      · rw [hpp, hlast] at hs
        exact h.proposed u (hpp ▸ hs)
      · rw [hother hpt hpp] at hs
        exact h.proposed u hs
  · intro s
    by_cases hst : s = t
    · rw [hst, hnext]
      exact (Entry.Dated.untouched now).enter
    · by_cases hsp : s = p.stage
      · rw [hsp, hlast]
        exact (h.entries p.stage).complete hb
      · rw [hother hst hsp]
        exact h.entries s
  · intro s u hs hn hc
    by_cases hst : s = t
    · rw [hst, hnext] at hc
      cases hc
    · by_cases hsp : s = p.stage
      -- the stage that is left now hands over to the one that is entered now
      · obtain rfl : t = u := by simpa [← hsp, hn] using ht.symm
        rw [hsp, hlast, hnext]
        exact ⟨now, rfl, rfl⟩
      · rw [hother hst hsp] at hc ⊢
        obtain ⟨left, hleft, hbegan⟩ := h.linked s u hs hn hc
        exact ⟨left, hleft, ((Later.moveTo ht now).entries u).startedAt left hbegan⟩

theorem finish (h : p.Dated now) (hp : p.stage = .validate) (hb : p.current.startedAt.isSome) :
    (p.updateEntry .validate (·.complete now)).Dated now where
  createdAt := h.createdAt
  startedInit := h.startedInit
  completedInit := h.completedInit
  proposed := h.proposed
  entries s := by
    by_cases hs : s = .validate
    · rw [hs, updateEntry_entries_self]
      exact (h.entries .validate).complete (hp ▸ hb)
    · rw [updateEntry_entries_of_ne hs]
      exact h.entries s
  linked s t hi hn hc := by
    have hs : s ≠ .validate := by
      rintro rfl
      cases hn
    rw [updateEntry_entries_of_ne hs] at hc ⊢
    obtain ⟨left, hleft, hbegan⟩ := h.linked s t hi hn hc
    have hlater : p.Later (p.updateEntry .validate (·.complete now)) :=
      .updateEntry (Nat.le_of_eq (congrArg Stage.position hp)) (.complete now)
    exact ⟨left, hleft, (hlater.entries t).startedAt left hbegan⟩

variable {l : Layout} {d : Disk} {c : Command} {o : Outcome}

theorem step (h : p.Dated now) (hp : p.Shaped) (hs : Command.Step l d now p c q o) :
    (q.stamped now).Dated now := by
  suffices hq : q.Dated now from hq.congr rfl rfl
  have hround : (p.enterRound now).Dated now := h.enterRound hp.not_init
  have hbegun : (p.enterRound now).current.startedAt.isSome := by
    rw [enterRound_current]
    rfl
  cases hs with
  | started s hp => exact hround
  | outlined scores hp hg => exact hround
  | failed scores list hp hg hs => exact hround.congr rfl rfl
  | advanced s t hs hg ht =>
    have hensured : (p.ensureRound now).Dated now := by
      rw [ensureRound]
      split
      · exact hround
      · exact h
    have hafter : p.stage.position < t.position := by
      rw [hs, Stage.position_of_next? ht]
      exact Nat.lt_succ_self _
    refine hensured.moveTo ?_ (hp.begun_ensureRound now).started ?_ ?_
    · rw [ensureRound_stage]
      exact hp.not_init
    · rw [ensureRound_entries_of_ne (ne_of_position_lt hafter).symm]
      exact hp.after t hafter
    · rw [ensureRound_stage, hs]
      exact ht
  | passed scores list hs hg hm =>
    have hscored : ({ p.enterRound now with score := Command.roundScore list } : Project).Dated now :=
      hround.congr rfl rfl
    have hafter : p.stage.position < Stage.design.position := by
      rw [hs]
      decide
    refine hscored.moveTo hp.not_init hbegun ?_ ?_
    · exact (enterRound_entries_of_ne (ne_of_position_lt hafter).symm).trans (hp.after .design hafter)
    · simp only [enterRound_stage, hs]
      rfl
  | validated hs ha => exact hround.finish hs hbegun

end Dated

end Project

def effective (calls : List Call) : List Call := calls.filter (·.isEffective)

theorem effective_append_of_idle {calls : List Call} {c : Call} (hc : c.isEffective = false) :
    effective (calls ++ [c]) = effective calls := by
  simp [effective, hc]

theorem effective_append {calls : List Call} {c : Call} (hc : c.isEffective = true) :
    effective (calls ++ [c]) = effective calls ++ [c] := by
  simp [effective, hc]

/-- The times of a project are in order, and the last call that had an effect is the last of them. -/
structure Chronicled (calls : List Call) (p : Project) : Prop where
  shaped : p.Shaped
  dated : p.Dated p.updatedAt
  updated : ∃ c, (effective calls).getLast? = some c ∧ p.updatedAt = c.before.now

/-- The clock has not been set back between two calls that had an effect. -/
def Onward (calls : List Call) : Prop :=
  (effective calls).Pairwise fun a b => a.before.now ≤ b.before.now

theorem Onward.of_append {calls : List Call} {c : Call} (h : Onward (calls ++ [c])) : Onward calls := by
  rw [Onward, effective, List.filter_append] at h
  exact (List.pairwise_append.1 h).1

theorem onward_of_le {a b c : Call} (hab : a.before.now ≤ b.before.now)
    (hbc : b.before.now ≤ c.before.now) : Onward [a, b, c] := by
  refine List.Pairwise.filter _ ?_
  simp [hab, hbc, hab.trans hbc]

theorem Command.Step.isEffective {l : Layout} {d : Disk} {now : Instant} {p q : Project} {c : Call}
    {o : Outcome} (h : Command.Step l d now p c.command q o) (hr : c.result = .ok o) :
    c.isEffective = true := by
  refine Call.isEffective_of_ok hr fun hc => ?_
  simpa [hc, Command.isRevision] using h.isRevision

namespace Chronicled

variable {calls : List Call} {c : Call} {p q : Project} {l : Layout} {d : Disk} {o : Outcome}

theorem created {idle : List Call} {name description : String} {mode : Mode}
    (hc : c.command = .init name description mode) (hr : c.result = .ok .done) :
    Chronicled (idle ++ [c]) (Command.created name description mode c.before.now) where
  shaped := .created name description mode c.before.now
  dated := .created name description mode c.before.now
  updated := by
    have he : c.isEffective = true := Call.isEffective_of_ok hr (by simp [hc])
    exact ⟨c, by rw [effective_append he, List.getLast?_concat], rfl⟩

theorem idle (h : Chronicled calls p) (hc : c.isEffective = false) : Chronicled (calls ++ [c]) p where
  shaped := h.shaped
  dated := h.dated
  updated := by
    rw [effective_append_of_idle hc]
    exact h.updated

theorem step (h : Chronicled calls p) (hr : c.result = .ok o)
    (hs : Command.Step l d c.before.now p c.command q o) (hon : Onward (calls ++ [c])) :
    Chronicled (calls ++ [c]) (q.stamped c.before.now) := by
  have heff : effective (calls ++ [c]) = effective calls ++ [c] := effective_append (hs.isEffective hr)
  have hle : p.updatedAt ≤ c.before.now := by
    obtain ⟨b, hb, hnow⟩ := h.updated
    rw [Onward, heff] at hon
    rw [hnow]
    exact (List.pairwise_append.1 hon).2.2 b (List.mem_of_getLast? hb) c (List.mem_singleton_self c)
  refine ⟨h.shaped.step hs, (h.dated.later hle).step h.shaped hs, c, ?_, rfl⟩
  rw [heff, List.getLast?_concat]

end Chronicled

namespace History

variable {l : Layout} {start w : Surroundings} {calls : List Call}

theorem atTime (h : History l start calls w) (now : Instant) :
    History l start calls (fresh w.disk now) := .between h rfl

/-- Once a project has been made, its times are in order, as long as the clock has not been set back. -/
theorem times_in_order (h : History l start calls w) (hb : ∃ c ∈ calls, c.Begins)
    (hon : Onward calls) :
    ∃ p, project? l w.disk = some p ∧ p.Dated p.updatedAt ∧
      ∃ c, (effective calls).getLast? = some c ∧ p.updatedAt = c.before.now := by
  obtain ⟨p, hp, hc⟩ := h.traced (I := fun calls p => Onward calls → Chronicled calls p)
    (fun _ _ _ _ _ _ hc hr _ => .created hc hr)
    (fun _ _ _ hi hc hon => (hi hon.of_append).idle hc)
    (fun _ _ _ _ _ hi hr hs hon => (hi hon.of_append).step hr hs hon) hb
  exact ⟨p, hp, (hc hon).dated, (hc hon).updated⟩

/-- A proposal that is begun years after its project was made, and passed at once. -/
theorem times_in_order_emptyRoot :
    let l := Layout.standard ⟨""⟩
    let first := (Command.init "shop" "sells flowers" .guided).call l (fresh emptyRoot leapSecond)
    let second := (Command.start .propose).call l (fresh first.after.disk newYear)
    let third := (Command.advance .propose).call l (fresh second.after.disk newYear)
    first.Begins ∧ Onward [first, second, third] ∧
      ∃ p, project? l third.after.disk = some p ∧ p.Dated p.updatedAt ∧ p.updatedAt = newYear := by
  intro l first second third
  have hb : first.Begins := begins_emptyRoot (by decide) (by decide) _ _
  have hfirst : History l (fresh emptyRoot leapSecond) [first] first.after := .call _ .nil
  have hsecond : History l (fresh emptyRoot leapSecond) [first, second] second.after :=
    .call _ (hfirst.atTime newYear)
  have hthird : History l (fresh emptyRoot leapSecond) [first, second, third] third.after :=
    .call _ (hsecond.atTime newYear)
  obtain ⟨_, _, _, -, -, hp⟩ := project?_of_begins hb
  obtain ⟨-, hp⟩ := Command.call_fresh_of_step hp (.started .propose rfl)
  obtain ⟨hr, -⟩ := Command.call_fresh_of_step hp (.advanced .propose .specify rfl (by simp) rfl)
  have hle : leapSecond ≤ newYear := by decide
  have hon : Onward [first, second, third] := onward_of_le hle (le_refl newYear)
  have heff : third.isEffective = true :=
    Call.isEffective_of_ok hr (fun hc : Command.advance .propose = .status => by cases hc)
  obtain ⟨p, hp, hdated, c, hlast, hnow⟩ := times_in_order hthird ⟨first, List.mem_cons_self, hb⟩ hon
  have hlast : (effective ([first, second] ++ [third])).getLast? = some c := hlast
  rw [effective_append heff, List.getLast?_concat] at hlast
  obtain rfl : third = c := Option.some.inj hlast
  exact ⟨hb, hon, p, hp, hdated, hnow⟩

end History

end StageGate
