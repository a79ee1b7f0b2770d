import StageGate.Proofs.Enabled
import StageGate.Proofs.Project.Frame
import StageGate.Proofs.Refused
import StageGate.Proofs.Store.RoundTrip

/-!
The last command of a pipeline. Validate succeeds exactly when the project stands at the final stage and
the documents before it are ready; it looks at no other file. Then it changes the project file alone, and
in the project one entry. Otherwise it says which document is the first that is not ready, and why.
-/

set_option autoImplicit false

namespace StageGate

open Session Store

structure Project.Validated (p : Project) (now : Instant) (q : Project) : Prop where
  fields : q = { p with updatedAt := now, entries := q.entries }
  round : (p.entries .validate).OneRoundMore now (q.entries .validate)
  status : (q.entries .validate).status = .completed
  completedAt : (q.entries .validate).completedAt = some now
  others : ∀ s, s ≠ .validate → q.entries s = p.entries s

theorem Project.validated_complete {p : Project} (hv : p.stage = .validate) (now : Instant) :
    p.Validated now (((p.enterRound now).updateEntry .validate (·.complete now)).stamped now) := by
  have hentry : (((p.enterRound now).updateEntry .validate (·.complete now)).stamped now).entries
      .validate = ((p.entries .validate).enter now).complete now := by
    simp [stamped, enterRound, updateEntry, hv]
  exact {
    fields := rfl
    round := hentry ▸ Entry.oneRoundMore_complete now _
    status := hentry ▸ rfl
    completedAt := hentry ▸ rfl
    others := fun s hs => by simp [stamped, enterRound, updateEntry, hv, hs] }

/-- It is the same time, and what validate looks at is the same: the project file and the documents before
its own. -/
structure Surroundings.AlikeForValidate (l : Layout) (w v : Surroundings) : Prop where
  now : v.now = w.now
  projectFile : Untouched l w.disk v.disk
  documents : ∀ s ∈ [Stage.propose, .specify, .clarify, .design, .tasks], ∀ path,
    l.artifact? s = some path → v.disk.find path = w.disk.find path

theorem Surroundings.AlikeForValidate.of_write {l : Layout} {w : Surroundings} {made : Disk}
    {path : Path} {content : ByteArray} (hp : l.artifact? .validate = some path)
    (h : w.disk.write path content = .ok made) : w.AlikeForValidate l { w with disk := made } where
  now := rfl
  projectFile := untouched_of_write_artifact hp h
  documents s hs _ ha := find_artifact_of_write hp ha (by rintro rfl; simp at hs) h

/-- What is said of a document that is not ready: why it cannot be read, or that nothing is in it. -/
inductive Complaint (d : Disk) (s : Stage) (path : Path) (e : Failure) : Prop
  | unreadable (fault : DiskFault) (h : d.readText path = .error fault)
    (he : e = .onDisk (.readArtifact s) path fault)
    (hm : e.messages = ["Failed to read " ++ s.name ++ " artifact: " ++ path.text, fault.message])
  | blank (text : String) (h : d.readText path = .ok text)
    (hb : ∀ c ∈ text.toList, Text.isBlank c = true) (he : e = .blankArtifact path)
    (hm : e.messages =
      [path.text ++ " is empty - all previous stages must be completed before validation"])

theorem Complaint.of_checkArtifact {l : Layout} {d : Disk} {s : Stage} {path : Path} {e : Failure}
    (hp : l.artifact? s = some path) (h : Command.checkArtifact l d s = .error e) :
    Complaint d s path e := by
  rcases Command.checkArtifact_eq_error hp h with ⟨fault, ht, rfl⟩ | ⟨text, ht, hb, rfl⟩
  · exact .unreadable fault ht rfl rfl
  · exact .blank text ht (by simpa [Text.isBlankText] using hb) rfl
      (by simp [Failure.messages, toString])

namespace Command

variable {l : Layout} {w v : Surroundings} {p q : Project} {c : Command} {o : Outcome}

/-- Once its change is prepared, a command on a project cannot fail any more, and what it has prepared can be
loaded then. -/
theorem call_of_isRevision (hc : c.isRevision = true) :
    (c.call l w).result = (prepared l w.disk w.now c).map (·.2) ∧
      read l (c.call l w).after.disk =
        match prepared l w.disk w.now c with
        | .error _ => read l w.disk
        | .ok r => .ok (r.1.stamped w.now) := by
  rw [call_result, call_disk]
  cases hp : prepared l w.disk w.now c with
  | error e =>
    rw [performed_of_prepared_error hp]
    exact ⟨rfl, rfl⟩
  | ok r =>
    rw [prepared_of_isRevision hc] at hp
    obtain ⟨p, hr, hq⟩ := bind_eq_ok.1 hp
    obtain ⟨made, hm, hread⟩ := performed_of_change hc hr hq
    rw [hm]
    exact ⟨rfl, hread⟩

theorem call_disk_eq_put (hc : c.isRevision = true) (hp : read l w.disk = .ok p)
    (hq : change l w.disk w.now p c = .ok (q, o)) :
    ∃ place, w.disk.walk (w.disk.start l.projectFile) l.projectFile.steps = .ok place ∧
      (c.call l w).after.disk = w.disk.put place (.file (q.stamped w.now).toText.toUTF8) := by
  obtain ⟨bytes, hf⟩ := find_of_read hp
  obtain ⟨place, hplace, hs⟩ := saved_of_find hf q w.now
  refine ⟨place, hplace, ?_⟩
  rw [call_disk, performed_eq_committed hc hp hq, committed, hs]

theorem prepared_validate_congr (h : w.AlikeForValidate l v) :
    prepared l v.disk v.now validate = prepared l w.disk w.now validate := by
  have hfault : artifactsFault l v.disk = artifactsFault l w.disk := by
    refine artifactsFault_congr fun s hs path hp => ?_
    rw [Disk.readText, Disk.readText, h.documents s hs path hp]
  simp only [prepared, change, hfault, h.now, read_congr h.projectFile]

theorem validate_congr (h : w.AlikeForValidate l v) :
    (validate.call l v).result = (validate.call l w).result ∧
      read l (validate.call l v).after.disk = read l (validate.call l w).after.disk := by
  obtain ⟨hresult, hread⟩ := call_of_isRevision (l := l) (c := validate) (w := w) rfl
  obtain ⟨hresult', hread'⟩ := call_of_isRevision (l := l) (c := validate) (w := v) rfl
  rw [hresult, hread, hresult', hread', prepared_validate_congr h, read_congr h.projectFile, h.now]
  exact ⟨rfl, rfl⟩

theorem validate_of_fault {e : Failure} (hp : read l w.disk = .ok p) (hv : p.stage = .validate)
    (he : artifactsFault l w.disk = .error e) :
    (validate.call l w).result = .error e ∧ (validate.call l w).after.disk = w.disk := by
  have hchange : change l w.disk w.now p validate = .error e := by
    simp [change, Project.requireStage, hv, he, bind, Except.bind]
  have hprepared : prepared l w.disk w.now validate = .error e := by
    rw [prepared_of_isRevision rfl, hp]
    exact hchange
  rw [call_result, call_disk, performed_of_prepared_error hprepared]
  exact ⟨rfl, rfl⟩

theorem validate_of_not_ready (hp : read l w.disk = .ok p) (hv : p.stage = .validate)
    (hr : ¬ ArtifactsReady l w.disk) :
    ∃ s ∈ [Stage.propose, .specify, .clarify, .design, .tasks], ∃ path e,
      l.artifact? s = some path ∧ ¬ ArtifactReady l w.disk s ∧
      (∀ t ∈ [Stage.propose, .specify, .clarify, .design, .tasks], t.position < s.position →
        ArtifactReady l w.disk t) ∧
      (validate.call l w).result = .error e ∧ Complaint w.disk s path e ∧
      (validate.call l w).after.disk = w.disk := by
  cases hf : artifactsFault l w.disk with
  | ok u => exact absurd (artifactsFault_eq_ok.1 hf) hr
  | error e =>
    obtain ⟨s, hs, hbefore, hcheck⟩ := artifactsFault_eq_error hf
    obtain ⟨path, hpath⟩ := exists_artifact l hs
    obtain ⟨hresult, hdisk⟩ := validate_of_fault hp hv hf
    have hbad : ¬ ArtifactReady l w.disk s := fun h => by
      simp [(checkArtifact_eq_ok hpath).2 h] at hcheck
    exact ⟨s, hs, path, e, hpath, hbad, hbefore, hresult, .of_checkArtifact hpath hcheck, hdisk⟩

theorem validate_of_ready (hp : read l w.disk = .ok p) (hv : p.stage = .validate)
    (hr : ArtifactsReady l w.disk) :
    (validate.call l w).result = .ok .done ∧
    ∃ q place, w.disk.walk (w.disk.start l.projectFile) l.projectFile.steps = .ok place ∧
      (validate.call l w).after.disk = w.disk.put place (.file q.toText.toUTF8) ∧
      read l (validate.call l w).after.disk = .ok q ∧ p.Validated w.now q := by
  have hstep : Step l w.disk w.now p validate _ _ := .validated hv (artifactsFault_eq_ok.2 hr)
  obtain ⟨hresult, hq⟩ := call_of_step (project?_eq_some.2 hp) hstep
  obtain ⟨place, hplace, hdisk⟩ := call_disk_eq_put rfl hp ((change_eq_ok rfl).2 hstep)
  exact ⟨hresult, _, place, hplace, hdisk, project?_eq_some.1 hq,
    Project.validated_complete hv w.now⟩

theorem isOk_validate_iff : (validate.call l w).result.isOk = true ↔
    ∃ p, read l w.disk = .ok p ∧ p.stage = .validate ∧ ArtifactsReady l w.disk := by
  cases hp : read l w.disk with
  | error e =>
    rw [(call_of_isRevision rfl).1, prepared_of_isRevision rfl, hp]
    simp [Except.bind, Except.map]
  | ok p =>
    rw [isOk_call_iff rfl (project?_eq_some.2 hp), exists_step_validate]
    simp

end Command

/-- Validate succeeds exactly when the project can be loaded and stands at the final stage, and the
documents from the proposal to the tasks are texts that are not blank; beside these it looks at nothing on
the disk. When it succeeds, it writes the project file and nothing else, and of the project it changes the
entry of the final stage and the time of the last change. When only documents are in the way, it names the
first of them in the order of the stages, and leaves the disk as it is. -/
theorem validate_when_ready (l : Layout) (w : Surroundings) :
    let documents := [Stage.propose, .specify, .clarify, .design, .tasks]
    let call := Command.validate.call l w
    (call.result.isOk = true ↔ ∃ p, (exec (load l) w).1 = .ok p ∧ p.stage = .validate ∧
      ∀ s ∈ documents, ArtifactReady l w.disk s) ∧
    (∀ v, w.AlikeForValidate l v →
      (Command.validate.call l v).result = call.result ∧
      (exec (load l) (Command.validate.call l v).after).1 = (exec (load l) call.after).1) ∧
    (∀ p, (exec (load l) w).1 = .ok p → call.result.isOk = true →
      call.result = .ok .done ∧
      ∃ q place, w.disk.walk (w.disk.start l.projectFile) l.projectFile.steps = .ok place ∧
        call.after.disk = w.disk.put place (.file q.toText.toUTF8) ∧
        (exec (load l) call.after).1 = .ok q ∧ p.Validated w.now q) ∧
    (∀ p, (exec (load l) w).1 = .ok p → p.stage = .validate →
      ¬ (∀ s ∈ documents, ArtifactReady l w.disk s) →
      ∃ s ∈ documents, ∃ path e, l.artifact? s = some path ∧ ¬ ArtifactReady l w.disk s ∧
        (∀ t ∈ documents, t.position < s.position → ArtifactReady l w.disk t) ∧
        call.result = .error e ∧ Complaint w.disk s path e ∧ call.after.disk = w.disk) := by
  intro documents call
  have hload (v : Surroundings) : (exec (load l) v).1 = read l v.disk := (computes_load l v).1
  simp only [hload]
  refine ⟨Command.isOk_validate_iff, fun v hv => Command.validate_congr hv, fun p hp hok => ?_,
    fun p hp hv hr => Command.validate_of_not_ready hp hv hr⟩
  obtain ⟨p', hp', hv, hr⟩ := Command.isOk_validate_iff.1 hok
  obtain rfl : p = p' := Except.ok.inj (hp.symm.trans hp')
  exact Command.validate_of_ready hp hv hr

/-- It stands at the final stage with a counter that cannot grow. -/
def lastRound : Project := { strange with stage := .validate }

/-- A root with a document of every stage, where that of clarify is blank and a folder stands in the place of
that of design. -/
def spoiledRoot : Disk :=
  ((History.fullRoot lastRound.toText.toUTF8).put ["root", "sdd", "clarifications.md"]
    (.file "\u3000\n".toUTF8)).put ["root", "sdd", "design.md"] .folder

theorem find_spoiledRoot :
    spoiledRoot.find (Layout.standard ⟨""⟩).projectFile = .ok (.file lastRound.toText.toUTF8) := rfl

theorem ready_spoiledRoot {s : Stage} (hs : s = .propose ∨ s = .specify) :
    ArtifactReady (Layout.standard ⟨""⟩) spoiledRoot s := by
  have ht : String.fromUTF8? "done".toUTF8 = some "done" := Disk.fromUTF8?_toUTF8 _
  rcases hs with rfl | rfl
  all_goals exact ⟨_, "done".toUTF8, "done", rfl, rfl, ht, 'd', by decide, by decide⟩

theorem not_ready_spoiledRoot : ¬ ArtifactReady (Layout.standard ⟨""⟩) spoiledRoot .clarify := by
  have hfind : spoiledRoot.find ⟨"sdd/clarifications.md"⟩ = .ok (.file "\u3000\n".toUTF8) := rfl
  have ht : String.fromUTF8? "\u3000\n".toUTF8 = some "\u3000\n" := Disk.fromUTF8?_toUTF8 _
  rintro ⟨path, bytes, text, hp, hf, hu, hc⟩
  obtain rfl : ⟨"sdd/clarifications.md"⟩ = path := Option.some.inj hp
  obtain rfl : "\u3000\n".toUTF8 = bytes := Item.file.inj (Except.ok.inj (hfind.symm.trans hf))
  obtain rfl : "\u3000\n" = text := Option.some.inj (ht.symm.trans hu)
  have hblank : Text.isBlankText "\u3000\n" = true := by decide +kernel
  simp [Command.isBlankText_eq_false.2 hc] at hblank

theorem validate_when_ready_fullRoot :
    let l := Layout.standard ⟨""⟩
    let w := fresh (History.fullRoot lastRound.toText.toUTF8) newYear
    let spoiled := fresh spoiledRoot newYear
    let call := Command.validate.call l w
    (exec (load l) w).1 = .ok lastRound ∧ call.result = .ok .done ∧
    (∃ q, (exec (load l) call.after).1 = .ok q ∧ lastRound.Validated newYear q) ∧
    (∃ made, w.disk.write ⟨"sdd/validation.md"⟩ .empty = .ok made ∧
      (Command.validate.call l { w with disk := made }).result = call.result) ∧
    (exec (load l) spoiled).1 = .ok lastRound ∧
    ∃ e, (Command.validate.call l spoiled).result = .error e ∧
      Complaint spoiledRoot .clarify ⟨"sdd/clarifications.md"⟩ e ∧
      (Command.validate.call l spoiled).after.disk = spoiledRoot := by
  intro l w spoiled call
  have hload : (exec (load l) w).1 = .ok lastRound := load_of_find (History.find_fullRoot _)
  have hspoiled : (exec (load l) spoiled).1 = .ok lastRound := load_of_find find_spoiledRoot
  obtain ⟨hiff, halike, hdone, -⟩ := validate_when_ready l w
  obtain ⟨-, -, -, hfault⟩ := validate_when_ready l spoiled
  have hok : call.result.isOk = true :=
    hiff.2 ⟨lastRound, hload, rfl, History.artifactsReady_fullRoot _⟩
  obtain ⟨hresult, q, -, -, -, hq, hvalidated⟩ := hdone lastRound hload hok
  have hown : l.artifact? .validate = some ⟨"sdd/validation.md"⟩ := by decide
  obtain ⟨made, hmade⟩ : ∃ made, w.disk.write ⟨"sdd/validation.md"⟩ .empty = .ok made := ⟨_, rfl⟩
  obtain ⟨s, hs, path, e, hp, hbad, hbefore, he, hcomplaint, hdisk⟩ :=
    hfault lastRound hspoiled rfl fun h => not_ready_spoiledRoot (h .clarify (by simp))
  obtain rfl : s = .clarify := by
    cases s with
    | clarify => rfl
    | propose => exact absurd (ready_spoiledRoot (Or.inl rfl)) hbad
    | specify => exact absurd (ready_spoiledRoot (Or.inr rfl)) hbad
    | init => simp at hs
    | validate => simp at hs
    | design => exact absurd (hbefore .clarify (by simp) (by decide)) not_ready_spoiledRoot
    | tasks => exact absurd (hbefore .clarify (by simp) (by decide)) not_ready_spoiledRoot
  have hpath : l.artifact? .clarify = some ⟨"sdd/clarifications.md"⟩ := by decide
  obtain rfl : ⟨"sdd/clarifications.md"⟩ = path := Option.some.inj (hpath.symm.trans hp)
  exact ⟨hload, hresult, ⟨q, hq, hvalidated⟩, ⟨made, hmade, (halike _ (.of_write hown hmade)).1⟩,
    hspoiled, e, he, hcomplaint, hdisk⟩

end StageGate
