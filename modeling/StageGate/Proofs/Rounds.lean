import Mathlib.Algebra.Ring.Nat
import Mathlib.Data.List.Induction
import StageGate.Proofs.Monotone
import StageGate.Proofs.Run

/-!
Rounds of work are counted exactly. The rounds that a project has seen at a stage are those that the calls
up to then began there, as far as the counter reaches: a stage begins a round when it is entered, when it is
started, and with every clarify and validate; a proposal that is passed before it was started begins one too.
-/

set_option autoImplicit false

namespace StageGate

open Session Store

namespace Call

def succeeds (command : Command) (c : Call) : Bool := decide (c.command = command) && c.result.isOk

def clarifies (c : Call) : Bool :=
  match c.command with
  | .clarify _ => c.result.isOk
  | _ => false

def enters (s : Stage) (c : Call) : Bool :=
  match c.command, c.result with
  | .advance t, .ok _ => decide (t.next? = some s)
  | .clarify _, .ok (.gatePassed ..) => decide (Stage.clarify.next? = some s)
  | _, _ => false

end Call

/-- Advance succeeded for the proposal, and start had not succeeded for it before. -/
def passedUnstarted (calls : List Call) : Bool :=
  (calls.takeWhile fun c => !c.succeeds (.start .propose)).any (·.succeeds (.advance .propose))

def roundsBegun (calls : List Call) (s : Stage) : Nat :=
  calls.countP (·.succeeds (.start s)) + (calls.any (·.enters s)).toNat +
    match s with
    | .propose => (passedUnstarted calls).toNat
    | .clarify => calls.countP (·.clarifies)
    | .validate => calls.countP (·.succeeds .validate)
    | _ => 0

/-! ### What a call adds -/

section Calls

variable {calls : List Call} {c : Call} {s : Stage} {o : Outcome}

theorem Call.succeeds_of_ok (h : c.result = .ok o) (command : Command) :
    c.succeeds command = decide (c.command = command) := by
  simp [succeeds, h]

theorem Call.enters_of_succeeds_advance (h : c.succeeds (.advance .propose) = true) :
    c.enters .specify = true := by
  simp only [succeeds, Bool.and_eq_true, decide_eq_true_eq] at h
  obtain ⟨hc, hr⟩ := h
  cases hres : c.result with
  | error e => simp [hres] at hr
  | ok o =>
    have hnext : Stage.propose.next? = some .specify := rfl
    simp [enters, hc, hres, hnext]

theorem Call.succeeds_of_ne {command : Command} (h : c.command ≠ command) :
    c.succeeds command = false := by
  simp [succeeds, h]

theorem passedUnstarted_append (calls : List Call) (c : Call) :
    passedUnstarted (calls ++ [c]) = (passedUnstarted calls ||
      !calls.any (·.succeeds (.start .propose)) && c.succeeds (.advance .propose)) := by
  induction calls with
  | nil =>
    by_cases hs : c.succeeds (.start .propose) = true
    · have hne : c.command ≠ .advance .propose := by
        simp only [Call.succeeds, Bool.and_eq_true, decide_eq_true_eq] at hs
        simp [hs.1]
      simp [passedUnstarted, hs, Call.succeeds_of_ne hne]
    · simp [passedUnstarted, hs]
  | cons b calls ih =>
    by_cases hs : b.succeeds (.start .propose) = true
    · simp [passedUnstarted, hs]
    · simp only [passedUnstarted, List.cons_append] at ih ⊢
      simp [hs, ih, Bool.or_assoc]

/-- What a call adds to the rounds of a stage that is entered once, and passed unstarted once. -/
def Call.roundsAdded (before : List Call) (c : Call) (s : Stage) : Nat :=
  (c.succeeds (.start s)).toNat + (c.enters s).toNat +
    match s with
    | .propose =>
      (!before.any (·.succeeds (.start .propose)) && c.succeeds (.advance .propose)).toNat
    | .clarify => c.clarifies.toNat
    | .validate => (c.succeeds .validate).toNat
    | _ => 0

theorem roundsBegun_append_of_once (he : c.enters s = true → calls.any (·.enters s) = false)
    (hp : c.succeeds (.advance .propose) = true → passedUnstarted calls = false) :
    roundsBegun (calls ++ [c]) s = roundsBegun calls s + c.roundsAdded calls s := by
  have hcount (f : Call → Bool) : (calls ++ [c]).countP f = calls.countP f + (f c).toNat := by
    cases hf : f c <;> simp [hf]
  have hentered : ((calls ++ [c]).any (·.enters s)).toNat =
      (calls.any (·.enters s)).toNat + (c.enters s).toNat := by
    cases hc : c.enters s <;> simp_all
  have hpassed : (passedUnstarted (calls ++ [c])).toNat = (passedUnstarted calls).toNat +
      (!calls.any (·.succeeds (.start .propose)) && c.succeeds (.advance .propose)).toNat := by
    rw [passedUnstarted_append]
    cases hc : c.succeeds (.advance .propose) <;> simp_all
  cases s <;> simp only [roundsBegun, Call.roundsAdded, hcount, hentered, hpassed] <;> omega

/-- The call may have changed a project: it succeeded, and is neither one of init nor one of status. -/
def Call.isChange (c : Call) : Bool := c.command.isRevision && c.result.isOk

theorem Call.isChange_of_isEffective (h : c.isEffective = false) : c.isChange = false := by
  cases hc : c.command <;> simp_all [isEffective, isChange, Command.isRevision]

theorem Call.succeeds_of_isChange {command : Command} (h : c.isChange = false)
    (hc : command.isRevision = true) : c.succeeds command = false := by
  by_cases he : c.command = command
  · simp_all [isChange, succeeds]
  · simp [succeeds, he]

theorem Call.clarifies_of_isChange (h : c.isChange = false) : c.clarifies = false := by
  cases hc : c.command <;> simp_all [isChange, clarifies, Command.isRevision]

theorem Call.enters_of_isChange (h : c.isChange = false) (s : Stage) : c.enters s = false := by
  cases hc : c.command <;> cases hr : c.result <;>
    simp_all [isChange, enters, Command.isRevision]

theorem roundsBegun_append_of_isChange (h : c.isChange = false) (calls : List Call) (s : Stage) :
    roundsBegun (calls ++ [c]) s = roundsBegun calls s := by
  have henters := Call.enters_of_isChange h s
  have hstart : c.succeeds (.start s) = false := Call.succeeds_of_isChange h rfl
  have hadvance : c.succeeds (.advance .propose) = false := Call.succeeds_of_isChange h rfl
  have hvalidate : c.succeeds .validate = false := Call.succeeds_of_isChange h rfl
  have hadded : c.roundsAdded calls s = 0 := by
    cases s <;> simp [Call.roundsAdded, henters, hstart, hadvance, hvalidate, Call.clarifies_of_isChange h]
  rw [roundsBegun_append_of_once (by simp [henters]) (by simp [hadvance]), hadded, Nat.add_zero]

theorem roundsBegun_eq_zero (h : ∀ c ∈ calls, c.isChange = false) (s : Stage) :
    roundsBegun calls s = 0 := by
  induction calls using List.reverseRecOn with
  | nil => cases s <;> rfl
  | append_singleton calls c ih =>
    rw [roundsBegun_append_of_isChange (h c (by simp))]
    exact ih fun b hb => h b (by simp [hb])

end Calls

/-! ### What a step adds -/

namespace Command

/-- A command with some outcome begins a round at a stage of a project: at its own, though an advance only
when none has begun there, and at the stage that it enters. -/
def beginsRound (p : Project) (c : Command) (o : Outcome) (s : Stage) : Bool :=
  match c, o with
  | start _, _ | validate, _ => s = p.stage
  | advance t, _ => t.next? = some s ∨ s = p.stage ∧ p.current.status = .pending
  | clarify _, .gatePassed .. => s = p.stage ∨ Stage.clarify.next? = some s
  | clarify _, _ => s = p.stage
  | init .., _ | status, _ => false

variable {l : Layout} {d : Disk} {now : Instant} {p q : Project} {c : Command} {o : Outcome} {s : Stage}

theorem rounds_enterRound (p : Project) (now : Instant) (s : Stage) :
    ((p.enterRound now).entries s).rounds =
      if s = p.stage then Entry.countRound (p.entries s).rounds else (p.entries s).rounds := by
  by_cases hs : s = p.stage
  · rw [if_pos hs, hs, Project.enterRound, Project.updateEntry_entries_self]
    rfl
  · rw [if_neg hs, Project.enterRound_entries_of_ne hs]

theorem rounds_ensureRound (p : Project) (now : Instant) (s : Stage) :
    ((p.ensureRound now).entries s).rounds =
      if s = p.stage ∧ p.current.status = .pending then Entry.countRound (p.entries s).rounds
      else (p.entries s).rounds := by
  by_cases hp : p.current.status = .pending
  · simp [Project.ensureRound, hp, rounds_enterRound]
  · simp [Project.ensureRound, hp]

theorem rounds_moveTo {t : Stage} (ht : t ≠ p.stage) (now : Instant) (s : Stage) :
    ((p.moveTo t now).entries s).rounds =
      if s = t then Entry.countRound (p.entries s).rounds else (p.entries s).rounds := by
  rw [Project.moveTo_entries p ht]
  by_cases hs : s = t
  · rw [if_pos hs, if_pos hs, hs]
    rfl
  · rw [if_neg hs, if_neg hs]
    split
    · next hp =>
      rw [hp]
      rfl
    · rfl

theorem rounds_complete (p : Project) (t : Stage) (now : Instant) (s : Stage) :
    ((p.updateEntry t (·.complete now)).entries s).rounds = (p.entries s).rounds := by
  by_cases hs : s = t
  · rw [hs, Project.updateEntry_entries_self]
    rfl
  · rw [Project.updateEntry_entries_of_ne hs]

theorem Step.rounds (h : Step l d now p c q o) (s : Stage) :
    (q.entries s).rounds = if c.beginsRound p o s then Entry.countRound (p.entries s).rounds
      else (p.entries s).rounds := by
  cases h with
  | started t hp => simp [beginsRound, rounds_enterRound]
  | outlined scores hp hg => simp [beginsRound, rounds_enterRound]
  | failed scores list hp hg hs => simp [beginsRound, rounds_enterRound]
  | advanced t u hp hg ht =>
    have hne : u ≠ (p.ensureRound now).stage := by
      rw [Project.ensureRound_stage, hp]
      exact Stage.ne_of_next? ht
    have hentered : u = s ↔ s = u := eq_comm
    rw [rounds_moveTo hne, rounds_ensureRound]
    by_cases hs : s = u
    · subst hs
      have hsp : s ≠ p.stage := hp ▸ Stage.ne_of_next? ht
      simp [beginsRound, ht, hsp]
    · simp [beginsRound, ht, hs, hentered]
  | passed scores list hp hg hs =>
    have hnext : Stage.clarify.next? = some .design := rfl
    have hne : Stage.design ≠ ({ p.enterRound now with score := roundScore list } : Project).stage := by
      simp [hp]
    have henter (t : Stage) :
        (({ p.enterRound now with score := roundScore list } : Project).entries t).rounds =
          if t = p.stage then Entry.countRound (p.entries t).rounds else (p.entries t).rounds :=
      rounds_enterRound p now t
    have hentered : Stage.design = s ↔ s = .design := eq_comm
    rw [rounds_moveTo hne, henter]
    by_cases hd : s = .design
    · simp [beginsRound, hd, hp, hnext]
    · simp [beginsRound, hd, hp, hnext, hentered]
  | validated hp ha => simp [beginsRound, rounds_complete, rounds_enterRound]

end Command

/-! ### What all calls add up to -/

theorem Project.Shaped.stage_of_pending {p : Project} (h : p.Shaped) (hc : p.current.status = .pending) :
    p.stage = .propose := by
  rcases h.atHand with ⟨hs, -⟩ | ⟨-, hf⟩ | ⟨hi, -⟩
  · exact hs
  · simp [hf.status] at hc
  · simp [hi] at hc

theorem Command.Step.next_of_enters {l : Layout} {d : Disk} {now : Instant} {p q : Project} {c : Call}
    {o : Outcome} {s : Stage} (h : Command.Step l d now p c.command q o) (hr : c.result = .ok o)
    (he : c.enters s = true) : p.stage.next? = some s ∧ q.stage = s := by
  generalize hc : c.command = command at h
  cases h with
  | advanced t u hp hg ht =>
    have hnext : t.next? = some s := by simpa [Call.enters, hc, hr] using he
    exact ⟨hp ▸ hnext, Option.some.inj (ht.symm.trans hnext)⟩
  | passed scores list hp hg hs =>
    have hnext : Stage.clarify.next? = some s := by simpa [Call.enters, hc, hr] using he
    exact ⟨hp ▸ hnext, Option.some.inj hnext⟩
  | _ => simp [Call.enters, hc, hr] at he

theorem Command.Step.started_of_propose {l : Layout} {d : Disk} {now : Instant} {p q : Project} {c : Command}
    {o : Outcome} (h : Command.Step l d now p c q o) (hp : p.stage = .propose) (hq : q.stage = .propose) :
    c = .start .propose ∧ q = p.enterRound now := by
  cases h with
  | started s hs => exact ⟨by rw [← hs, hp], rfl⟩
  | advanced s t hs hg ht =>
    have hne := Stage.ne_of_next? ht
    exact absurd (hq.trans (hp.symm.trans hs)) hne
  | outlined scores hs hg => simp [hp] at hs
  | passed scores list hs hg hm => simp [hp] at hs
  | failed scores list hs hg hm => simp [hp] at hs
  | validated hs ha => simp [hp] at hs

/-- The rounds of a project are those that some calls began. -/
structure Tallied (calls : List Call) (p : Project) : Prop where
  shaped : p.Shaped
  entered : ∀ s, calls.any (·.enters s) = true → s.position ≤ p.stage.position
  unstarted : p.stage = .propose →
    (p.current.status = .pending ↔ calls.any (·.succeeds (.start .propose)) = false)
  init : (p.entries .init).rounds = 1
  counted : ∀ s, s ≠ .init → (p.entries s).rounds.toNat = min 0xFFFFFFFF (roundsBegun calls s)

namespace Tallied

variable {calls : List Call} {p q : Project} {c : Call} {o : Outcome} {l : Layout} {d : Disk}
  {now : Instant}

theorem entered_once (h : Tallied calls p) (hr : c.result = .ok o)
    (hs : Command.Step l d now p c.command q o) (s : Stage) (he : c.enters s = true) :
    calls.any (·.enters s) = false := by
  obtain ⟨hnext, -⟩ := hs.next_of_enters hr he
  cases ha : calls.any (·.enters s) with
  | false => rfl
  | true =>
    have hle := h.entered s ha
    have hpos := Stage.position_of_next? hnext
    omega

theorem passed_once (h : Tallied calls p) (hr : c.result = .ok o)
    (hs : Command.Step l d now p c.command q o) (ha : c.succeeds (.advance .propose) = true) :
    passedUnstarted calls = false := by
  have hnone := h.entered_once hr hs .specify (Call.enters_of_succeeds_advance ha)
  cases hp : passedUnstarted calls with
  | false => rfl
  | true =>
    obtain ⟨b, hb, hs⟩ := List.any_eq_true.1 hp
    have hmem : b ∈ calls := (List.takeWhile_subset _) hb
    exact absurd (Call.enters_of_succeeds_advance hs) (List.any_eq_false.1 hnone b hmem)

theorem roundsBegun_append (h : Tallied calls p) (hr : c.result = .ok o)
    (hs : Command.Step l d now p c.command q o) (s : Stage) :
    roundsBegun (calls ++ [c]) s = roundsBegun calls s + (c.command.beginsRound p o s).toNat := by
  rw [roundsBegun_append_of_once (h.entered_once hr hs s) (h.passed_once hr hs)]
  refine congrArg (roundsBegun calls s + ·) ?_
  have hsucceeds := Call.succeeds_of_ok hr
  generalize hc : c.command = command at hs ⊢
  cases hs with
  | started t hp =>
    cases s <;> simp [Call.roundsAdded, Call.enters, Call.clarifies, hsucceeds, hc, Command.beginsRound,
      hp, eq_comm]
  | advanced t u hp hg ht =>
    by_cases hpropose : t = .propose
    · have hstarted : (!calls.any (·.succeeds (.start .propose))) =
          decide (p.current.status = .pending) := by
        cases hs : calls.any (·.succeeds (.start .propose)) <;>
          simp [h.unstarted (hp.trans hpropose), hs]
      subst hpropose
      obtain rfl : Stage.specify = u := Option.some.inj ht
      cases s <;> simp [Call.roundsAdded, Call.enters, Call.clarifies, hsucceeds, hc, hr,
        Command.beginsRound, hp, ht, hstarted]
    · have hpending : p.current.status ≠ .pending := fun hpen =>
        hpropose (hp ▸ h.shaped.stage_of_pending hpen)
      cases s <;> simp [Call.roundsAdded, Call.enters, Call.clarifies, hsucceeds, hc, hr,
        Command.beginsRound, hp, ht, hpending, hpropose]
  | outlined scores hp hg =>
    cases s <;> simp [Call.roundsAdded, Call.enters, Call.clarifies, hsucceeds, hc, hr,
      Command.beginsRound, hp]
  | passed scores list hp hg hs =>
    have hnext : Stage.clarify.next? = some .design := rfl
    cases s <;> simp [Call.roundsAdded, Call.enters, Call.clarifies, hsucceeds, hc, hr,
      Command.beginsRound, hp, hnext]
  | failed scores list hp hg hs =>
    cases s <;> simp [Call.roundsAdded, Call.enters, Call.clarifies, hsucceeds, hc, hr,
      Command.beginsRound, hp]
  | validated hp ha =>
    cases s <;> simp [Call.roundsAdded, Call.enters, Call.clarifies, hsucceeds, hc, Command.beginsRound,
      hp]

theorem created {idle : List Call} (hidle : ∀ b ∈ idle, b.isEffective = false) {name description : String}
    {mode : Mode} (hc : c.command = .init name description mode) (now : Instant) :
    Tallied (idle ++ [c]) (Command.created name description mode now) := by
  have hchange : ∀ b ∈ idle ++ [c], b.isChange = false := by
    intro b hb
    rcases List.mem_append.1 hb with hb | hb
    · exact Call.isChange_of_isEffective (hidle b hb)
    · rw [List.mem_singleton.1 hb, Call.isChange, hc]
      rfl
  refine ⟨.created name description mode now, fun s hs => ?_, fun _ => ?_, rfl, fun s hs => ?_⟩
  · obtain ⟨b, hb, he⟩ := List.any_eq_true.1 hs
    simp [Call.enters_of_isChange (hchange b hb)] at he
  · refine iff_of_true rfl (List.any_eq_false.2 fun b hb => ?_)
    have hstart : b.succeeds (.start .propose) = false := Call.succeeds_of_isChange (hchange b hb) rfl
    simp [hstart]
  · rw [roundsBegun_eq_zero hchange]
    cases s with
    | init => exact absurd rfl hs
    | _ => rfl

theorem idle (h : Tallied calls p) (hc : c.isEffective = false) : Tallied (calls ++ [c]) p := by
  have hchange := Call.isChange_of_isEffective hc
  refine ⟨h.shaped, fun s hs => h.entered s ?_, fun hp => ?_, h.init, fun s hs => ?_⟩
  · simpa [Call.enters_of_isChange hchange] using hs
  · have hstart : c.succeeds (.start .propose) = false := Call.succeeds_of_isChange hchange rfl
    rw [h.unstarted hp]
    simp [hstart]
  · rw [roundsBegun_append_of_isChange hchange]
    exact h.counted s hs

theorem step (h : Tallied calls p) (hr : c.result = .ok o)
    (hs : Command.Step l d now p c.command q o) : Tallied (calls ++ [c]) (q.stamped now) where
  shaped := h.shaped.step hs
  entered s he := by
    have hstage : (q.stamped now).stage = q.stage := rfl
    rw [hstage]
    rcases Bool.or_eq_true_iff.1 (List.any_append.symm.trans he) with he | he
    · exact Nat.le_trans (h.entered s he) (Project.Later.step hs).stage
    · have hc : c.enters s = true := by simpa using he
      exact Nat.le_of_eq (congrArg Stage.position (hs.next_of_enters hr hc).2.symm)
  unstarted hq := by
    have hp : p.stage = .propose := by
      rcases hs.stage_eq_or_next with he | hn
      · exact he.symm.trans hq
      · have hpos := Stage.position_of_next? hn
        have hq : q.stage = .propose := hq
        rw [hq] at hpos
        exact absurd (Stage.position_inj (Nat.succ.inj hpos).symm) h.shaped.not_init
    obtain ⟨hc, rfl⟩ := hs.started_of_propose hp hq
    have hstart : c.succeeds (.start .propose) = true := by simp [Call.succeeds_of_ok hr, hc]
    have hcurrent : ((p.enterRound now).stamped now).current = p.current.enter now :=
      p.enterRound_current now
    rw [hcurrent]
    simp [hstart]
  init := by
    have hnone : c.command.beginsRound p o .init = false := by
      have hnot : Stage.init ≠ p.stage := h.shaped.not_init.symm
      generalize c.command = command at hs
      cases hs with
      | advanced t u hp hg ht => simp [Command.beginsRound, hnot, Stage.next?_ne_init]
      | passed scores list hp hg hs => simp [Command.beginsRound, hnot, Stage.next?_ne_init]
      | _ => simp [Command.beginsRound, hnot]
    have hrounds := hs.rounds .init
    rw [hnone] at hrounds
    exact hrounds.trans h.init
  counted s hne := by
    have hrounds : ((q.stamped now).entries s).rounds = _ := hs.rounds s
    rw [h.roundsBegun_append hr hs, hrounds]
    have hcounted := h.counted s hne
    cases c.command.beginsRound p o s with
    | false => simpa using hcounted
    | true =>
      simp only [if_true, Entry.toNat_countRound, hcounted, Bool.toNat_true]
      omega

end Tallied

namespace History

variable {l : Layout} {start w : Surroundings} {calls : List Call}

/-- Once a project has been made, init has had one round, and every other stage as many as the calls have
begun there, or the greatest number that is counted. -/
theorem rounds_counted (h : History l start calls w) (hb : ∃ c ∈ calls, c.Begins) :
    ∃ p, project? l w.disk = some p ∧ (p.entries .init).rounds = 1 ∧
      ∀ s, s ≠ .init → (p.entries s).rounds.toNat = min (2 ^ 32 - 1) (roundsBegun calls s) := by
  obtain ⟨p, hp, ht⟩ := h.traced
    (fun _ _ _ _ _ hidle hc _ => Tallied.created hidle hc _)
    (fun _ _ _ ht hc => ht.idle hc) (fun _ _ _ _ _ ht hr hs => ht.step hr hs) hb
  exact ⟨p, hp, ht.init, ht.counted⟩

theorem roundsBegun_walk {a b c d : Call} {ob oc od : Outcome} (ha : a.isChange = false)
    (hb : b.command = .start .propose) (hc : c.command = .start .propose)
    (hd : d.command = .advance .propose) (hob : b.result = .ok ob) (hoc : c.result = .ok oc)
    (hod : d.result = .ok od) :
    roundsBegun [a, b, c, d] .propose = 2 ∧ roundsBegun [a, b, c, d] .specify = 1 := by
  have hstart : a.succeeds (.start .propose) = false := Call.succeeds_of_isChange ha rfl
  have hspecify : a.succeeds (.start .specify) = false := Call.succeeds_of_isChange ha rfl
  have hadvance : a.succeeds (.advance .propose) = false := Call.succeeds_of_isChange ha rfl
  have hnext : Stage.propose.next? = some .specify := rfl
  have hentersb (s : Stage) : b.enters s = false := by simp [Call.enters, hb]
  have hentersc (s : Stage) : c.enters s = false := by simp [Call.enters, hc]
  have hentersd (s : Stage) : d.enters s = decide (Stage.specify = s) := by
    simp [Call.enters, hd, hod, hnext]
  simp [roundsBegun, passedUnstarted, hstart, hspecify, hadvance, Call.enters_of_isChange ha, hentersb,
    hentersc, hentersd, Call.succeeds_of_ok hob, Call.succeeds_of_ok hoc, Call.succeeds_of_ok hod, hb,
    hc, hd]

/-- A proposal that is started twice before it is passed, and a stage that is only entered. -/
theorem rounds_counted_emptyRoot :
    let l := Layout.standard ⟨""⟩
    let first := (Command.init "shop" "sells flowers" .guided).call l (fresh emptyRoot newYear)
    let second := (Command.start .propose).call l first.after
    let third := (Command.start .propose).call l second.after
    let fourth := (Command.advance .propose).call l third.after
    first.Begins ∧ ∃ p, project? l fourth.after.disk = some p ∧ (p.entries .init).rounds = 1 ∧
      (p.entries .propose).rounds.toNat = 2 ∧ (p.entries .specify).rounds.toNat = 1 := by
  intro l first second third fourth
  have hb : first.Begins := begins_emptyRoot (by decide) (by decide) _ _
  have h : History l (fresh emptyRoot newYear) [first, second, third, fourth] fourth.after :=
    .call _ (.call _ (.call _ (.call _ .nil)))
  obtain ⟨_, _, _, -, -, hp⟩ := project?_of_begins hb
  obtain ⟨hsecond, hp⟩ := Command.call_of_step hp (.started .propose rfl)
  obtain ⟨hthird, hp⟩ := Command.call_of_step hp (.started .propose rfl)
  obtain ⟨hfourth, -⟩ := Command.call_of_step hp (.advanced .propose .specify rfl (by simp) rfl)
  obtain ⟨hpropose, hspecify⟩ := roundsBegun_walk (rfl : first.isChange = false) (rfl : second.command = _)
    (rfl : third.command = _) (rfl : fourth.command = _) hsecond hthird hfourth
  obtain ⟨p, hp, hinit, hrounds⟩ := rounds_counted h ⟨first, List.mem_cons_self, hb⟩
  refine ⟨hb, p, hp, hinit, ?_, ?_⟩
  · rw [hrounds .propose (by decide), hpropose]
    rfl
  · rw [hrounds .specify (by decide), hspecify]
    rfl

end History

end StageGate
