import Mathlib.Data.List.Forall2
import StageGate.Proofs.Artifacts
import StageGate.Proofs.Gate
import StageGate.Proofs.Shape

/-!
What a project has behind it. The calls that moved a project on are, in this order, one for each stage
that it has passed, and after those the validations that completed its final stage. So no stage of a
completed project was passed over.
-/

set_option autoImplicit false

namespace StageGate

open Session Store

namespace Call

variable {l : Layout} {c : Call}

def stage? (l : Layout) (w : Surroundings) : Option Stage := (project? l w.disk).map (·.stage)

def isOver (l : Layout) (w : Surroundings) : Bool :=
  (project? l w.disk).any (·.isCompleted .validate)

/-- The call succeeded, and moved the project to another stage or completed its final stage. Status only
looks at a project that is completed. -/
def isMilestone (l : Layout) (c : Call) : Bool :=
  c.result.isOk && (stage? l c.before != stage? l c.after || c.command != .status && isOver l c.after)

def Passes (s : Stage) (c : Call) : Prop :=
  match s with
  | .init => c.Begins
  | .clarify => ∃ scores score threshold, c.command = .clarify scores ∧
      c.result = .ok (.gatePassed score threshold)
  | .validate => c.command = .validate ∧ c.result = .ok .done
  | s => c.command = .advance s ∧ c.result = .ok .done

structure Completes (l : Layout) (c : Call) : Prop where
  passes : Passes .validate c
  ready : ArtifactsReady l c.before.disk

theorem isMilestone_of_project? {p q : Project} {o : Outcome} (hr : c.result = .ok o)
    (hp : project? l c.before.disk = some p) (hq : project? l c.after.disk = some q) :
    c.isMilestone l =
      (p.stage != q.stage || c.command != .status && q.isCompleted .validate) := by
  simp only [isMilestone, hr, stage?, isOver, hp, hq, Option.map_some, Option.any_some]
  rfl

theorem passes_advance {s : Stage} (hi : s ≠ .init) (hc : s ≠ .clarify)
    (hcmd : c.command = .advance s) (hr : c.result = .ok .done) (hv : s ≠ .validate) :
    Passes s c := by
  cases s with
  | init => exact absurd rfl hi
  | clarify => exact absurd rfl hc
  | validate => exact absurd rfl hv
  | _ => exact ⟨hcmd, hr⟩

end Call

namespace Project

variable {p : Project}

theorem enterRound_current_status (p : Project) (now : Instant) :
    (p.enterRound now).current.status = .inProgress := by
  rw [enterRound_current, Entry.enter_status]

theorem moveTo_current_status (p : Project) (t : Stage) (now : Instant) :
    (p.moveTo t now).current.status = .inProgress := by
  simp [moveTo, current]

theorem Shaped.stage_of_isCompleted (h : p.Shaped) (hc : p.isCompleted .validate = true) :
    p.stage = .validate ∧ p.current.status = .completed := by
  have hs : (p.entries .validate).status = .completed := by simpa [isCompleted] using hc
  rcases Nat.lt_or_ge p.stage.position Stage.validate.position with hlt | hge
  · simp [h.after _ hlt, Entry.untouched] at hs
  · have hv : p.stage = .validate := by
      cases hp : p.stage <;> simp_all [Stage.position]
    exact ⟨hv, by rw [current, hv]; exact hs⟩

theorem Shaped.isCompleted_eq_false (h : p.Shaped) (hc : p.current.status = .inProgress) :
    p.isCompleted .validate = false := by
  cases hv : p.isCompleted .validate with
  | false => rfl
  | true =>
    have hs := (h.stage_of_isCompleted hv).2
    simp [hc] at hs

end Project

/-- The milestones behind a project: a call for each stage before its own, and then the validations. -/
structure Behind (l : Layout) (milestones : List Call) (p : Project) : Prop where
  gated : p.Gated
  shaped : p.Shaped
  split : ∃ passing finals, milestones = passing ++ finals ∧
    List.Forall₂ Call.Passes (Stage.order.take p.stage.position) passing ∧
    (∀ c ∈ finals, c.Completes l) ∧ (finals ≠ [] → p.stage = .validate) ∧
    (p.isCompleted .validate = true → finals ≠ [])

namespace Behind

variable {l : Layout} {milestones : List Call} {p q : Project} {c : Call}

theorem created (name description : String) (mode : Mode) (now : Instant) (hc : c.Begins) :
    Behind l [c] (Command.created name description mode now) where
  gated := .created name description mode now
  shaped := .created name description mode now
  split := ⟨[c], [], rfl, .cons hc .nil, by simp, by simp, fun h => by cases h⟩

theorem stays (h : Behind l milestones p) (hg : q.Gated) (hs : q.Shaped) (hst : q.stage = p.stage)
    (hc : q.isCompleted .validate = false) : Behind l milestones q where
  gated := hg
  shaped := hs
  split := by
    obtain ⟨passing, finals, hm, hp, hf, hv, -⟩ := h.split
    rw [hst]
    exact ⟨passing, finals, hm, hp, hf, hv, by simp [hc]⟩

theorem moves (h : Behind l milestones p) (hg : q.Gated) (hs : q.Shaped)
    (hst : p.stage.next? = some q.stage) (hc : q.isCompleted .validate = false)
    (hp : c.Passes p.stage) : Behind l (milestones ++ [c]) q where
  gated := hg
  shaped := hs
  split := by
    obtain ⟨passing, finals, rfl, hps, hf, hv, -⟩ := h.split
    have hnil : finals = [] := by
      by_contra hne
      simp [hv hne, Stage.next?, Stage.position, Stage.order] at hst
    subst hnil
    refine ⟨passing ++ [c], [], by simp, ?_, by simp, by simp, by simp [hc]⟩
    have ht : Stage.order.take q.stage.position = Stage.order.take p.stage.position ++ [p.stage] := by
      rw [Stage.position_of_next? hst, List.take_add_one, Stage.getElem?_order_position]
      rfl
    rw [ht]
    exact List.rel_append hps (.cons hp .nil)

theorem completes (h : Behind l milestones p) (hg : q.Gated) (hs : q.Shaped)
    (hp : p.stage = .validate) (hst : q.stage = .validate) (hc : c.Completes l) :
    Behind l (milestones ++ [c]) q where
  gated := hg
  shaped := hs
  split := by
    obtain ⟨passing, finals, rfl, hps, hf, hv, -⟩ := h.split
    refine ⟨passing, finals ++ [c], by simp, by rw [hst, ← hp]; exact hps, ?_, fun _ => hst, by simp⟩
    intro c' hc'
    rcases List.mem_append.1 hc' with hc' | hc'
    · exact hf c' hc'
    · rw [List.mem_singleton.1 hc']
      exact hc

theorem step {o : Outcome} (h : Behind l milestones p)
    (hs : Command.Step l c.before.disk c.before.now p c.command q o) (hr : c.result = .ok o)
    (hp : project? l c.before.disk = some p)
    (hq : project? l c.after.disk = some (q.stamped c.before.now)) :
    Behind l (milestones ++ [c].filter (·.isMilestone l)) (q.stamped c.before.now) := by
  have hg := h.gated.step hs
  have hsh := h.shaped.step hs
  have hm := Call.isMilestone_of_project? hr hp hq
  have hstay (hst : q.stage = p.stage) (hi : q.current.status = .inProgress) :
      Behind l (milestones ++ [c].filter (·.isMilestone l)) (q.stamped c.before.now) := by
    have hc : (q.stamped c.before.now).isCompleted .validate = false := hsh.isCompleted_eq_false hi
    have hst : (q.stamped c.before.now).stage = p.stage := hst
    rw [List.filter_cons_of_neg (by simp [hm, hst, hc]), List.filter_nil, List.append_nil]
    exact h.stays hg hsh hst hc
  have hmove (hst : p.stage.next? = some q.stage) (hi : q.current.status = .inProgress)
      (hpass : c.Passes p.stage) :
      Behind l (milestones ++ [c].filter (·.isMilestone l)) (q.stamped c.before.now) := by
    have hne : p.stage ≠ (q.stamped c.before.now).stage := fun he => by
      have := Stage.position_of_next? hst
      rw [he] at this
      exact absurd this (Nat.ne_of_lt (Nat.lt_succ_self _))
    rw [List.filter_cons_of_pos (by simp [hm, hne]), List.filter_nil]
    exact h.moves hg hsh hst (hsh.isCompleted_eq_false hi) hpass
  generalize hcmd : c.command = command at hs
  cases hs with
  | started s hst => exact hstay rfl (Project.enterRound_current_status p _)
  | outlined scores hst hgiven => exact hstay rfl (Project.enterRound_current_status p _)
  | failed scores list hst hgiven hlt => exact hstay rfl (Project.enterRound_current_status p _)
  | advanced s t hst hgate ht =>
    subst hst
    refine hmove ht (Project.moveTo_current_status _ t _) ?_
    apply Call.passes_advance h.shaped.not_init _ hcmd hr
    · intro hv
      rw [hv] at ht
      simp [Stage.next?, Stage.position, Stage.order] at ht
    · exact fun hc => h.gated.not_met_at_clarify hc (hgate hc)
  | passed scores list hst hgiven hle =>
    have ht : p.stage.next? = some .design := by rw [hst]; rfl
    refine hmove ht (Project.moveTo_current_status _ _ _) ?_
    rw [hst]
    exact ⟨scores, _, _, hcmd, hr⟩
  | validated hst ha =>
    have hover : (Project.stamped ((p.enterRound c.before.now).updateEntry .validate
        (·.complete c.before.now)) c.before.now).isCompleted .validate = true := by
      simp [Project.isCompleted, Project.stamped]
    rw [List.filter_cons_of_pos (by simp [hm, hcmd, hover]), List.filter_nil]
    exact h.completes hg hsh hst hst ⟨⟨hcmd, hr⟩, Command.artifactsFault_eq_ok.1 ha⟩

end Behind

namespace Call

variable {l : Layout} {c : Call}

theorem isMilestone_of_error {e : Failure} (h : c.result = .error e) : c.isMilestone l = false := by
  simp [isMilestone, h]

theorem isMilestone_of_status (hc : c.command = .status) (h : c.after.disk = c.before.disk) :
    c.isMilestone l = false := by
  simp [isMilestone, stage?, hc, h]

end Call

namespace History

variable {l : Layout} {start w : Surroundings} {calls : List Call}

/-- Where there is no project nothing has been passed; where there is one, its milestones are behind
it. -/
def Recorded (l : Layout) (milestones : List Call) : Option Project → Prop
  | none => milestones = []
  | some p => Behind l milestones p

theorem recorded_call {milestones : List Call} {c : Command}
    (h : Recorded l milestones (project? l w.disk)) :
    Recorded l (milestones ++ [c.call l w].filter (·.isMilestone l))
      (project? l (c.call l w).after.disk) := by
  have he := Command.effect_call l c w
  generalize hcall : c.call l w = call at he
  have hc : call.command = c := by rw [← hcall]; rfl
  have hb : call.before = w := by rw [← hcall]; rfl
  have hkeep (hm : call.isMilestone l = false) (hp : project? l call.after.disk = project? l w.disk) :
      Recorded l (milestones ++ [call].filter (·.isMilestone l)) (project? l call.after.disk) := by
    rw [List.filter_cons_of_neg (by simp [hm]), List.filter_nil, List.append_nil, hp]
    exact h
  generalize hr : call.result = result at he
  cases he with
  | refused e _ hp => exact hkeep (Call.isMilestone_of_error hr) hp
  | looked _ hs hd =>
    exact hkeep (Call.isMilestone_of_status (hc.trans hs) (by rw [hd, hb])) (by rw [hd])
  | began name description mode _ hi hp hn =>
    have hm : call.isMilestone l = true := by
      simp [Call.isMilestone, Call.stage?, hr, hb, hp, hn]
    rw [hp] at h
    obtain rfl : milestones = [] := h
    rw [List.filter_cons_of_pos (by simpa using hm), List.filter_nil, hn]
    exact Behind.created name description mode w.now ⟨name, description, mode, hc.trans hi, hr⟩
  | changed p q o _ hp hs hn =>
    rw [hp] at h
    subst hc hb
    rw [hn]
    exact h.step hs hr hp hn

theorem recorded (h : History l start calls w) (hs : project? l start.disk = none) :
    Recorded l (calls.filter (·.isMilestone l)) (project? l w.disk) := by
  induction h with
  | nil =>
    rw [hs]
    rfl
  | call c _ ih =>
    rw [List.filter_append]
    exact recorded_call ih
  | between _ hu ih =>
    rw [project?_of_untouched hu]
    exact ih

/-- Once the final stage is completed, the calls that moved the project on or completed its final stage
are one for each other stage, in the order of the stages, and then at least one validation; at each of
these all the documents were ready. -/
theorem milestones_of_completed {p : Project} (h : History l start calls w)
    (hs : project? l start.disk = none) (hp : project? l w.disk = some p)
    (hv : p.isCompleted .validate = true) :
    ∃ passing finals, calls.filter (·.isMilestone l) = passing ++ finals ∧
      List.Forall₂ Call.Passes Stage.order.dropLast passing ∧ finals ≠ [] ∧
      ∀ c ∈ finals, Call.Passes .validate c ∧ ArtifactsReady l c.before.disk := by
  have hb : Behind l (calls.filter (·.isMilestone l)) p := by
    have := h.recorded hs
    rwa [hp] at this
  obtain ⟨passing, finals, hm, hps, hf, -, hne⟩ := hb.split
  have ho : Stage.order.take p.stage.position = Stage.order.dropLast := by
    rw [(hb.shaped.stage_of_isCompleted hv).1]
    rfl
  exact ⟨passing, finals, hm, ho ▸ hps, hne hv, fun c hc => ⟨(hf c hc).passes, (hf c hc).ready⟩⟩

def fullRoot (projectFile : ByteArray) : Disk :=
  let folder := ["root", "sdd"]
  let documents := ["proposal.md", "requirements.md", "clarifications.md", "design.md", "tasks.md"]
  documents.foldl (fun d name => d.put (folder ++ [name]) (.file "done".toUTF8))
    ((emptyRoot.put folder .folder).put (folder ++ ["sdd.json"]) (.file projectFile))

theorem find_fullRoot (bytes : ByteArray) :
    (fullRoot bytes).find (Layout.standard ⟨""⟩).projectFile = .ok (.file bytes) := by
  rfl

theorem artifactsReady_fullRoot (bytes : ByteArray) :
    ArtifactsReady (Layout.standard ⟨""⟩) (fullRoot bytes) := by
  have ht : String.fromUTF8? "done".toUTF8 = some "done" := Disk.fromUTF8?_toUTF8 _
  intro s hs
  cases s with
  | init => simp at hs
  | validate => simp at hs
  | _ => exact ⟨_, "done".toUTF8, "done", rfl, rfl, ht, 'd', by decide, by decide⟩

theorem exists_completed : ∃ calls w p,
    History (Layout.standard ⟨""⟩) (fresh emptyRoot newYear) calls w ∧
      project? (Layout.standard ⟨""⟩) w.disk = some p ∧ p.isCompleted .validate = true := by
  obtain ⟨_, _, _, h, -, hp, hd⟩ := exists_past_gate
  obtain ⟨_, _, h, hp⟩ := h.extend hp rfl newYear (.advanced .design .tasks hd (by simp) rfl)
  obtain ⟨_, w, h, hp⟩ := h.extend hp rfl newYear (.advanced .tasks .validate rfl (by simp) rfl)
  obtain ⟨bytes, hf⟩ := find_of_read (project?_eq_some.1 hp)
  have hu : Untouched (Layout.standard ⟨""⟩) w.disk (fullRoot bytes) := by
    rw [Untouched, hf, find_fullRoot]
  obtain ⟨calls, w, h, hp⟩ := h.extend hp hu newYear
    (.validated rfl (Command.artifactsFault_eq_ok.2 (artifactsReady_fullRoot bytes)))
  exact ⟨calls, w, _, h, hp, by simp [Project.isCompleted, Project.stamped]⟩

theorem milestones_of_completed_fullRoot : ∃ calls w p,
    History (Layout.standard ⟨""⟩) (fresh emptyRoot newYear) calls w ∧
      project? (Layout.standard ⟨""⟩) w.disk = some p ∧ p.isCompleted .validate = true ∧
      ∃ passing finals, calls.filter (·.isMilestone (Layout.standard ⟨""⟩)) = passing ++ finals ∧
        List.Forall₂ Call.Passes Stage.order.dropLast passing ∧ finals ≠ [] ∧
        ∀ c ∈ finals, Call.Passes .validate c ∧
          ArtifactsReady (Layout.standard ⟨""⟩) c.before.disk := by
  obtain ⟨calls, w, p, h, hp, hv⟩ := exists_completed
  have hs : project? (Layout.standard ⟨""⟩) emptyRoot = none :=
    Command.project?_of_not_exists missing_emptyRoot
  exact ⟨calls, w, p, h, hp, hv, h.milestones_of_completed hs hp hv⟩

end History

end StageGate
