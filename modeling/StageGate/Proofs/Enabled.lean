import StageGate.Proofs.Memory
import StageGate.Proofs.Milestones

/-!
Which commands a project allows, and that it never comes to a dead end. At each stage a fixed set of
commands succeeds; and from every project that can be loaded some documents and commands lead to the end
of the final stage, as long as no folder stands in the place of a document.
-/

set_option autoImplicit false

namespace StageGate

open Session Store

namespace Store

variable {l : Layout} {d : Disk} {p : Project}

theorem find_artifact_of_saved {path : Path} {s : Stage} (hp : read l d = .ok p)
    (ha : l.artifact? s = some path) (q : Project) (now : Instant) :
    (saved l q d now).2.find path = d.find path := by
  obtain ⟨bytes, hf⟩ := find_of_read hp
  obtain ⟨place, hq⟩ := enter_of_find hf
  obtain ⟨name, -, hname, hne, rfl⟩ := Layout.exists_name ha
  rw [saved, Disk.makeFolders_of_enter hq]
  cases hw : d.write l.projectFile (q.stamped now).toText.toUTF8 with
  | error e => simp only [hw]
  | ok made =>
    simp only [hw]
    exact Disk.find_write_join_of_ne hname isName_projectFileName hne hw

end Store

namespace Command

variable {l : Layout} {w : Surroundings} {d : Disk} {now : Instant} {p : Project} {c : Command}
  {s : Stage}

/-! ### The steps that a project can take -/

theorem exists_step_start : (∃ q o, Step l d now p (start s) q o) ↔ s = p.stage := by
  constructor
  · rintro ⟨q, o, hs⟩
    cases hs with
    | started _ h => exact h.symm
  · intro h
    exact ⟨_, _, .started s h.symm⟩

theorem exists_step_advance : (∃ q o, Step l d now p (advance s) q o) ↔
    s = p.stage ∧ (p.stage = .clarify → p.threshold ≤ p.score) ∧ p.stage ≠ .validate := by
  constructor
  · rintro ⟨q, o, hs⟩
    cases hs with
    | advanced _ t h hg ht =>
      subst h
      exact ⟨rfl, hg, Stage.exists_next?.1 ⟨t, ht⟩⟩
  · rintro ⟨rfl, hg, hv⟩
    obtain ⟨t, ht⟩ := Stage.exists_next?.2 hv
    exact ⟨_, _, .advanced _ t rfl hg ht⟩

theorem exists_step_clarify {scores : Option String} :
    (∃ q o, Step l d now p (clarify scores) q o) ↔ p.stage = .clarify := by
  constructor
  · rintro ⟨q, o, hs⟩
    cases hs <;> assumption
  · intro h
    cases hg : givenScores scores with
    | none => exact ⟨_, _, .outlined scores h hg⟩
    | some list =>
      by_cases hs : p.threshold ≤ roundScore list
      · exact ⟨_, _, .passed scores list h hg hs⟩
      · exact ⟨_, _, .failed scores list h hg (UInt8.not_le.1 hs)⟩

theorem exists_step_validate :
    (∃ q o, Step l d now p validate q o) ↔ p.stage = .validate ∧ ArtifactsReady l d := by
  constructor
  · rintro ⟨q, o, hs⟩
    cases hs with
    | validated h ha => exact ⟨h, artifactsFault_eq_ok.1 ha⟩
  · rintro ⟨h, ha⟩
    exact ⟨_, _, .validated h (artifactsFault_eq_ok.2 ha)⟩

theorem isOk_call_iff (hc : c.isRevision = true) (hp : project? l w.disk = some p) :
    (c.call l w).result.isOk = true ↔ ∃ q o, Step l w.disk w.now p c q o := by
  constructor
  · intro hok
    have he := effect_call l c w
    generalize (c.call l w).result = result, (c.call l w).after = after at he hok
    cases he with
    | refused e _ _ => cases hok
    | looked _ hs _ => rw [hs] at hc; cases hc
    | began _ _ _ _ hi _ _ => rw [hi] at hc; cases hc
    | changed r q o _ h hs _ =>
      obtain rfl : p = r := by simpa [hp] using h
      exact ⟨q, o, hs⟩
  · rintro ⟨q, o, hs⟩
    rw [(call_of_step hp hs).1]
    rfl

theorem isOk_call_init (hp : project? l w.disk = some p) (name description : String) (mode : Mode) :
    ((init name description mode).call l w).result.isOk = false := by
  have hthere := exists_of_read (project?_eq_some.1 hp)
  obtain ⟨e, he⟩ : ∃ e, (performed l w.disk w.now (init name description mode)).1 = .error e :=
    performed_init_of_exists rfl hthere
  rw [call_result, he]
  rfl

theorem find_artifact_of_call {path : Path} (hp : project? l w.disk = some p)
    (ha : l.artifact? s = some path) : (c.call l w).after.disk.find path = w.disk.find path := by
  rw [call_disk]
  by_cases hs : c = status
  · rw [hs, performed_status]
  cases hr : prepared l w.disk w.now c with
  | error e => rw [performed_of_prepared_error hr]
  | ok r =>
    rw [performed_of_prepared_ok hr hs]
    exact find_artifact_of_saved (project?_eq_some.1 hp) ha r.1 w.now

end Command

/-! ### Writing the documents -/

/-- No folder stands in the place of a document. -/
def Unblocked (l : Layout) (d : Disk) : Prop :=
  ∀ s path, l.artifact? s = some path → d.isFolder path = false

theorem Stage.artifact?_inj {s t : Stage} {name : String} (hs : s.artifact? = some name)
    (ht : t.artifact? = some name) : s = t := by
  cases s <;> cases t <;> cases hs
  all_goals first
    | rfl
    | exact absurd ht (by decide)

section Documents

variable {l : Layout} {d d' : Disk} {p : Project} {s t : Stage} {path : Path} {content : ByteArray}

theorem ArtifactReady.congr (h : ArtifactReady l d s)
    (hf : ∀ path, l.artifact? s = some path → d'.find path = d.find path) : ArtifactReady l d' s := by
  obtain ⟨path, bytes, text, ha, hfile, htext, hc⟩ := h
  exact ⟨path, bytes, text, ha, (hf path ha).trans hfile, htext, hc⟩

theorem exists_write_artifact (hp : project? l d = some p) (ha : l.artifact? s = some path)
    (hf : d.isFolder path = false) (content : ByteArray) : ∃ d', d.write path content = .ok d' := by
  obtain ⟨bytes, hfile⟩ := find_of_read (project?_eq_some.1 hp)
  obtain ⟨place, hq⟩ := enter_of_find hfile
  obtain ⟨name, -, hname, -, rfl⟩ := Layout.exists_name ha
  rw [Disk.write_join hname, hq]
  have hn : d.item? (place ++ [name]) ≠ some .folder := by
    intro hi
    simp [Disk.isFolder, Disk.find_join hname, hq, Except.bind, hi] at hf
  exact ⟨_, if_neg hn⟩

theorem find_artifact_of_write {other : Path} (ha : l.artifact? s = some path)
    (ht : l.artifact? t = some other) (hne : t ≠ s) (h : d.write path content = .ok d') :
    d'.find other = d.find other := by
  obtain ⟨name, hs, hname, -, rfl⟩ := Layout.exists_name ha
  obtain ⟨name', hs', hname', -, rfl⟩ := Layout.exists_name ht
  refine Disk.find_write_join_of_ne hname' hname (fun he => hne ?_) h
  exact Stage.artifact?_inj hs' (he ▸ hs)

theorem Unblocked.write (hu : Unblocked l d) (ha : l.artifact? s = some path)
    (h : d.write path content = .ok d') : Unblocked l d' := by
  intro t other ht
  by_cases hne : t = s
  · subst hne
    obtain rfl : other = path := by simpa [ha] using ht.symm
    rw [Disk.isFolder, Disk.find_of_write h]
  · rw [Disk.isFolder, find_artifact_of_write ha ht hne h]
    exact hu t other ht

def sampleText : String := "done"

theorem artifactReady_of_write (ha : l.artifact? s = some path)
    (h : d.write path sampleText.toUTF8 = .ok d') : ArtifactReady l d' s := by
  exact ⟨path, _, sampleText, ha, Disk.find_of_write h, Disk.fromUTF8?_toUTF8 _, 'd', by decide,
    by decide⟩

end Documents

/-! ### A way to the end -/

namespace Move

/-- What a user of the project does: a command is called, or a document is written. -/
inductive ByUser (l : Layout) : Move → Prop
  | call (c : Command) : ByUser l (.call c)
  | document (s : Stage) (path : Path) (content : ByteArray) (h : l.artifact? s = some path) :
    ByUser l (.work (Memory.written path content))

end Move

def Stage.leadOn : Stage → Command
  | clarify => .clarify (some History.fullScores)
  | validate => .validate
  | s => .advance s

namespace Command

variable {l : Layout} {d : Disk} {now : Instant} {p : Project}

theorem exists_step_leadOn (p : Project) (hv : p.stage ≠ .validate) :
    ∃ q o, Step l d now p p.stage.leadOn q o ∧ p.stage.next? = some q.stage := by
  obtain ⟨t, ht⟩ := Stage.exists_next?.2 hv
  by_cases hc : p.stage = .clarify
  · have hgate : p.threshold ≤ roundScore History.fullScores :=
      History.threshold_le_fullScores p.mode
    rw [hc]
    exact ⟨_, _, .passed _ _ hc History.givenScores_fullScores hgate, rfl⟩
  · have hadvance : p.stage.leadOn = .advance p.stage := by
      cases hs : p.stage <;> simp_all [Stage.leadOn]
    rw [hadvance]
    exact ⟨_, _, .advanced p.stage t rfl (fun h => absurd h hc) ht, ht⟩

theorem exists_step_completing (hv : p.stage = .validate) (h : ArtifactsReady l d) :
    ∃ q o, Step l d now p p.stage.leadOn q o ∧ q.isCompleted .validate = true := by
  rw [hv]
  exact ⟨_, _, .validated hv (artifactsFault_eq_ok.2 h), by simp [Project.isCompleted]⟩

end Command

namespace Run

variable {l : Layout} {w : Surroundings} {p : Project}

theorem ending_append (l : Layout) (w : Surroundings) (ms ns : List Move) :
    ending l w (ms ++ ns) = ending l (ending l w ms) ns := by
  induction ms generalizing w with
  | nil => rfl
  | cons m ms ih => exact ih (m.next l w)

theorem exists_documents (hp : project? l w.disk = some p) (hu : Unblocked l w.disk) (ss : List Stage) :
    ∃ ms, (∀ m ∈ ms, m.ByUser l) ∧ project? l (ending l w ms).disk = some p ∧
      Unblocked l (ending l w ms).disk ∧
      ∀ s ∈ ss, (l.artifact? s).isSome → ArtifactReady l (ending l w ms).disk s := by
  induction ss with
  | nil => exact ⟨[], by simp, hp, hu, by simp⟩
  | cons s ss ih =>
    obtain ⟨ms, hms, hq, hf, hr⟩ := ih
    cases ha : l.artifact? s with
    | none => exact ⟨ms, hms, hq, hf, by simpa [ha] using hr⟩
    | some path =>
      obtain ⟨made, hw⟩ := exists_write_artifact hq ha (hf s path ha) sampleText.toUTF8
      have hend : (ending l w (ms ++ [.work (Memory.written path sampleText.toUTF8)])).disk = made := by
        rw [ending_append]
        show Memory.written path _ (ending l w ms).disk = made
        rw [Memory.written, hw]
      refine ⟨ms ++ [.work (Memory.written path sampleText.toUTF8)], ?_, ?_, ?_, ?_⟩
      · intro m hm
        rcases List.mem_append.1 hm with hm | hm
        · exact hms m hm
        · rw [List.mem_singleton.1 hm]
          exact .document s path _ ha
      · rw [hend, project?_of_untouched (untouched_of_write_artifact ha hw)]
        exact hq
      · rw [hend]
        exact hf.write ha hw
      · intro t ht hsome
        rw [hend]
        by_cases hts : t = s
        · subst hts
          exact artifactReady_of_write ha hw
        · have hmem : t ∈ ss := by simpa [hts] using ht
          exact (hr t hmem hsome).congr fun _ hpath => find_artifact_of_write ha hpath hts hw

theorem artifactsReady_call (hp : project? l w.disk = some p) (h : ArtifactsReady l w.disk)
    (c : Command) : ArtifactsReady l (c.call l w).after.disk :=
  fun s hs => (h s hs).congr fun _ ha => Command.find_artifact_of_call hp ha

/-- When the documents are ready, the commands from the stage of a project on lead to its end. -/
theorem exists_completed_of_ready {ss : List Stage} (hss : Stage.order.drop p.stage.position = ss)
    (hp : project? l w.disk = some p) (h : ArtifactsReady l w.disk) :
    ∃ q, project? l (ending l w (ss.map fun s => .call s.leadOn)).disk = some q ∧
      q.isCompleted .validate = true := by
  -- on the stages that are left; the first of them is that of the project
  induction ss generalizing w p with
  | nil =>
    have := congrArg List.length hss
    cases hs : p.stage <;> simp [hs, Stage.order, Stage.position] at this
  | cons s ss ih =>
    have hdrop : Stage.order.drop p.stage.position =
        p.stage :: Stage.order.drop (p.stage.position + 1) := by
      cases p.stage <;> rfl
    obtain ⟨rfl, hrest⟩ := List.cons.inj (hdrop.symm.trans hss)
    by_cases hv : p.stage = .validate
    · obtain ⟨q, o, hs, hq⟩ :
          ∃ q o, Command.Step l w.disk w.now p p.stage.leadOn q o ∧ q.isCompleted .validate = true :=
        Command.exists_step_completing hv h
      obtain rfl : ss = [] := by simpa [hv, Stage.position, Stage.order] using hrest.symm
      exact ⟨_, (Command.call_of_step hp hs).2, hq⟩
    · obtain ⟨q, o, hs, hnext⟩ :
          ∃ q o, Command.Step l w.disk w.now p p.stage.leadOn q o ∧ p.stage.next? = some q.stage :=
        Command.exists_step_leadOn p hv
      have hq := (Command.call_of_step hp hs).2
      rw [← Stage.position_of_next? hnext] at hrest
      exact ih (p := q.stamped w.now) hrest hq (artifactsReady_call hp h _)

/-- No project is at a dead end: its user can bring it to the end of the final stage. -/
theorem exists_completed (hp : project? l w.disk = some p) (hu : Unblocked l w.disk) :
    ∃ ms, (∀ m ∈ ms, m.ByUser l) ∧
      ∃ q, project? l (ending l w ms).disk = some q ∧ q.isCompleted .validate = true := by
  obtain ⟨ms, hms, hq, -, hr⟩ :=
    exists_documents hp hu [.propose, .specify, .clarify, .design, .tasks]
  have hready : ArtifactsReady l (ending l w ms).disk := fun s hs =>
    hr s hs (by obtain ⟨path, ha⟩ := Command.exists_artifact l hs; simp [ha])
  refine ⟨ms ++ (Stage.order.drop p.stage.position).map fun s => .call s.leadOn, ?_, ?_⟩
  · intro m hm
    rcases List.mem_append.1 hm with hm | hm
    · exact hms m hm
    · obtain ⟨s, -, rfl⟩ := List.mem_map.1 hm
      exact .call _
  · rw [ending_append]
    exact exists_completed_of_ready rfl hq hready

end Run

variable {l : Layout} {start w : Surroundings} {calls : List Call}

/-- Once a project has been made, start succeeds for its stage only, and so does advance, but neither at
clarify nor at the final stage; clarify and validate succeed at the stages they are named for, validate when
the documents are ready, and init never. Unless a folder blocks a document, the user can always bring the
project to the end of the final stage, at whatever time. -/
theorem History.enabled_commands (h : History l start calls w) (hb : ∃ c ∈ calls, c.Begins) :
    ∃ p, project? l w.disk = some p ∧
      (∀ s, ((Command.start s).call l w).result.isOk = true ↔ s = p.stage) ∧
      (∀ s, ((Command.advance s).call l w).result.isOk = true ↔
        s = p.stage ∧ p.stage ≠ .clarify ∧ p.stage ≠ .validate) ∧
      (∀ scores, ((Command.clarify scores).call l w).result.isOk = true ↔ p.stage = .clarify) ∧
      ((Command.validate.call l w).result.isOk = true ↔
        p.stage = .validate ∧ ArtifactsReady l w.disk) ∧
      (∀ name description mode,
        ((Command.init name description mode).call l w).result.isOk = false) ∧
      (Unblocked l w.disk → ∃ ms, (∀ m ∈ ms, m.ByUser l) ∧
        ∃ q, project? l (Run.ending l w ms).disk = some q ∧ q.isCompleted .validate = true) := by
  obtain ⟨p, hp, hg⟩ := h.invariant Project.Gated.created (fun _ _ _ _ _ _ hi hs => hi.step hs) hb
  have hadvance (s : Stage) : ((Command.advance s).call l w).result.isOk = true ↔
      s = p.stage ∧ p.stage ≠ .clarify ∧ p.stage ≠ .validate := by
    rw [Command.isOk_call_iff rfl hp, Command.exists_step_advance]
    refine and_congr_right fun _ => and_congr_left fun _ => ?_
    exact ⟨fun hmet hc => hg.not_met_at_clarify hc (hmet hc), fun hne hc => absurd hc hne⟩
  exact ⟨p, hp,
    fun s => (Command.isOk_call_iff rfl hp).trans Command.exists_step_start,
    hadvance,
    fun scores => (Command.isOk_call_iff rfl hp).trans Command.exists_step_clarify,
    (Command.isOk_call_iff rfl hp).trans Command.exists_step_validate,
    fun name description mode => Command.isOk_call_init hp name description mode,
    Run.exists_completed hp⟩

theorem History.enabled_commands_emptyRoot :
    let l := Layout.standard ⟨""⟩
    let first := (Command.init "shop" "sells flowers" .guided).call l (fresh emptyRoot newYear)
    first.Begins ∧ Unblocked l first.after.disk ∧
    (∃ p, project? l first.after.disk = some p ∧
      (∀ s, ((Command.start s).call l first.after).result.isOk = true ↔ s = p.stage)) ∧
    ∃ ms, (∀ m ∈ ms, m.ByUser l) ∧ ∃ q, project? l (Run.ending l first.after ms).disk = some q ∧
      q.isCompleted .validate = true := by
  intro l first
  have hb : first.Begins := begins_emptyRoot (by decide) (by decide) _ _
  have h : History l (fresh emptyRoot newYear) [first] first.after := .call _ .nil
  have hu : Unblocked l first.after.disk := by
    intro s path ha
    cases s <;> cases ha
    all_goals decide +kernel
  obtain ⟨p, hp, hstart, -, -, -, -, hend⟩ :=
    History.enabled_commands h ⟨first, List.mem_singleton_self _, hb⟩
  exact ⟨hb, hu, ⟨p, hp, hstart⟩, hend hu⟩

end StageGate
