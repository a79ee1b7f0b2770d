import StageGate.Proofs.Milestones
import StageGate.Proofs.Project.Schema
import StageGate.Proofs.Store.RoundTrip

/-!
Stages that do not exist. A project file whose current stage is a text that names no stage is refused for
that, whatever else is wrong with it, and no other file is refused for it; an unknown key in the table of
entries is a fault of another kind.
-/

set_option autoImplicit false

namespace StageGate

open Session Store
open Json (Written inOrder)
open Json.Written (last? fieldValues)

theorem Stage.ofName?_eq_none_iff {v : String} : Stage.ofName? v = none ↔ ∀ s : Stage, v ≠ s.name := by
  simp only [Option.eq_none_iff_forall_ne_some, ne_eq, Stage.ofName?_eq_some_iff]

namespace Project

/-- The current stage of an object is this text, and no stage has it for a name. -/
structure UnknownStage (fields : List (String × Written)) (v : String) : Prop where
  value : last? "current_stage" fields = some (.string v)
  unknown : ∀ s : Stage, v ≠ s.name

variable {text : String} {fields es : List (String × Written)} {p : Project}

theorem checkStage_eq_error {fault : DocumentFault} :
    checkStage (Written.object fields).value = .error fault ↔
      ∃ v, UnknownStage fields v ∧ fault = .unknownStage v := by
  have hget : (Written.object fields).value.get? "current_stage" =
      (last? "current_stage" fields).map (·.value) := Written.field?_fieldValues _ _
  rw [checkStage, hget]
  constructor
  · intro h
    split at h
    · next v hv =>
      obtain ⟨w, hw, hs⟩ := Option.map_eq_some_iff.1 hv
      obtain rfl := Written.value_eq_string_iff.1 hs
      split at h
      · cases h
      · next hn =>
        cases h
        exact ⟨v, ⟨hw, Stage.ofName?_eq_none_iff.1 (by simpa using hn)⟩, rfl⟩
    · cases h
  · rintro ⟨v, h, rfl⟩
    simp [h.value, Written.value, Stage.ofName?_eq_none_iff.2 h.unknown]

theorem UnknownStage.eq {v v' : String} (h : UnknownStage fields v) (h' : UnknownStage fields v') :
    v = v' :=
  Written.string.inj (Option.some.inj (h.value.symm.trans h'.value))

/-- The unknown stage is reported before all other faults, and for it alone. -/
theorem ofText_eq_unknownStage {v : String} (hd : Json.document? text = some (.object fields)) :
    ofText text = .error (.unknownStage v) ↔ UnknownStage fields v := by
  rw [ofText_of_document hd]
  cases hc : checkStage (Written.object fields).value with
  | error fault =>
    obtain ⟨v', h', rfl⟩ := checkStage_eq_error.1 hc
    simp only [bind, Except.bind, Except.error.injEq, DocumentFault.unknownStage.injEq]
    constructor
    · rintro rfl
      exact h'
    · exact fun h => h'.eq h
  | ok u =>
    have hno : ¬ UnknownStage fields v := fun h => by
      simp [checkStage_eq_error.2 ⟨v, h, rfl⟩] at hc
    simp only [bind, Except.bind, hno, iff_false]
    -- past the check all faults are of shape, also that of a stage which the fields name
    cases ofFields (inOrder (fieldValues fields)) <;> simp [Except.mapError]

theorem ofText_eq_error {fault : DocumentFault} (hd : Json.document? text = some (.object fields))
    (h : ofText text = .error fault) (hn : ∀ v, ¬ UnknownStage fields v) :
    ∃ shape, fault = .badShape shape := by
  rw [ofText_of_document hd] at h
  cases hc : checkStage (Written.object fields).value with
  | error fault =>
    obtain ⟨v, hv, -⟩ := checkStage_eq_error.1 hc
    exact absurd hv (hn v)
  | ok u =>
    rw [hc] at h
    cases hf : ofFields (inOrder (fieldValues fields)) with
    | error shape =>
      rw [hf] at h
      exact ⟨shape, (Except.error.inj h).symm⟩
    | ok p =>
      rw [hf] at h
      cases h

theorem ofFields_of_ofText (hd : Json.document? text = some (.object fields))
    (h : ofText text = .ok p) : ofFields (inOrder (fieldValues fields)) = .ok p := by
  rw [ofText_of_document hd, bind_eq_ok] at h
  obtain ⟨-, -, hf⟩ := h
  exact mapError_eq_ok.1 hf

theorem stage_of_ofText (hd : Json.document? text = some (.object fields)) (h : ofText text = .ok p) :
    last? "current_stage" fields = some (.string p.stage.name) := by
  obtain ⟨-, -, hstage, -⟩ := ofFields_eq_ok.1 (ofFields_of_ofText hd h)
  exact (Document.field?_eq_ok_iff fun w _ => Document.readStage_eq_ok).1 hstage

theorem keys_of_ofText (hd : Json.document? text = some (.object fields)) (h : ofText text = .ok p)
    (hes : last? "stage_status" fields = some (.object es)) :
    ∀ key ∈ es.map (·.1), ∃ s : Stage, key = s.name := by
  obtain ⟨-, -, -, -, -, -, hentries, -⟩ := ofFields_eq_ok.1 (ofFields_of_ofText hd h)
  obtain ⟨w, hw, htable⟩ := Document.field?_eq_ok_some.1 hentries
  obtain rfl : .object es = w := Option.some.inj (hes.symm.trans hw)
  rw [Entry.tableOfJson_object, Entry.tableOfFields_eq_ok (Json.ordered_inOrder _)] at htable
  exact Entry.exists_name_iff.1 htable.1

end Project

namespace Store

variable {l : Layout} {d : Disk} {bytes : ByteArray} {text : String}

theorem read_of_text (hf : d.find l.projectFile = .ok (.file bytes))
    (ht : String.fromUTF8? bytes = some text) :
    read l d = (Project.ofText text).mapError (.badProject l.projectFile) := by
  simp only [read, hf, Disk.textOf, ht]

theorem mapError_eq_unknownStage {path file : Path} {v : String} {x : Except DocumentFault Project} :
    x.mapError (Failure.badProject file) = .error (.badProject path (.unknownStage v)) ↔
      path = file ∧ x = .error (.unknownStage v) := by
  cases x <;> simp [Except.mapError, eq_comm]

/-- A file with an object in it is refused for an unknown stage exactly if its current stage is a text that
names no stage, whatever else is in the file. An unknown key in the table of entries is no such fault, but
one of shape; and a project that is loaded stands at the stage that is named. -/
theorem load_unknown_stage {l : Layout} {w : Surroundings} {bytes : ByteArray} {text : String}
    {fields : List (String × Written)} (hf : w.disk.find l.projectFile = .ok (.file bytes))
    (ht : String.fromUTF8? bytes = some text) (hd : Json.document? text = some (.object fields)) :
    (∀ path v, (exec (load l) w).1 = .error (.badProject path (.unknownStage v)) ↔
      path = l.projectFile ∧ Project.UnknownStage fields v) ∧
    (∀ es key, last? "stage_status" fields = some (.object es) → key ∈ es.map (·.1) →
      (∀ s : Stage, key ≠ s.name) → (∀ v, ¬ Project.UnknownStage fields v) →
      ∃ shape, (exec (load l) w).1 = .error (.badProject l.projectFile (.badShape shape))) ∧
    ∀ p, (exec (load l) w).1 = .ok p →
      last? "current_stage" fields = some (.string p.stage.name) := by
  have hload : (exec (load l) w).1 = (Project.ofText text).mapError (.badProject l.projectFile) :=
    (computes_load l w).1.trans (read_of_text hf ht)
  rw [hload]
  refine ⟨fun path v => ?_, fun es key hes hkey hunknown hstage => ?_, fun p h => ?_⟩
  · rw [mapError_eq_unknownStage, Project.ofText_eq_unknownStage hd]
  · cases hp : Project.ofText text with
    | error fault =>
      obtain ⟨shape, rfl⟩ := Project.ofText_eq_error hd hp hstage
      exact ⟨shape, rfl⟩
    | ok p =>
      obtain ⟨s, hs⟩ := Project.keys_of_ofText hd hp hes key hkey
      exact absurd hs (hunknown s)
  · exact Project.stage_of_ofText hd (mapError_eq_ok.1 h)

/-- A file with two current stages, of which the last does not exist, and with nothing else that it should
hold. -/
def launchText : String :=
  "\x7b\"current_stage\":\"specify\",\"current_stage\":\"launch\",\"mode\":null\x7d"

/-- A file whose current stage exists, with an entry for a stage that does not. -/
def launchEntryText : String :=
  "\x7b\"current_stage\":\"specify\",\"stage_status\":\x7b\"launch\":null\x7d\x7d"

theorem load_unknown_stage_launch :
    let l := Layout.standard ⟨""⟩
    let holding (text : String) := fresh (History.fullRoot text.toUTF8) newYear
    (exec (load l) (holding launchText)).1 =
      .error (.badProject l.projectFile (.unknownStage "launch")) ∧
    (∃ shape, (exec (load l) (holding launchEntryText)).1 =
      .error (.badProject l.projectFile (.badShape shape))) ∧
    ∃ fields, Json.document? strange.toText = some (.object fields) ∧
      (exec (load l) (holding strange.toText)).1 = .ok strange ∧
      last? "current_stage" fields = some (.string "init") := by
  intro l holding
  have hf (text : String) : (holding text).disk.find l.projectFile = .ok (.file text.toUTF8) :=
    History.find_fullRoot _
  have hlaunch : Json.document? launchText = some (.object
      [("current_stage", .string "specify"), ("current_stage", .string "launch"), ("mode", .null)]) := rfl
  have hentry : Json.document? launchEntryText = some (.object
      [("current_stage", .string "specify"), ("stage_status", .object [("launch", .null)])]) := rfl
  have hunknown (s : Stage) : "launch" ≠ s.name := by cases s <;> decide
  obtain ⟨fields, hd, -⟩ := Project.isDirect_toText strange
  have hload : (exec (load l) (holding strange.toText)).1 = .ok strange := load_of_find (hf _)
  have hspecify (v : String) : ¬ Project.UnknownStage
      [("current_stage", .string "specify"), ("stage_status", .object [("launch", .null)])] v := fun h => by
    obtain rfl : "specify" = v := Written.string.inj (Option.some.inj h.value)
    exact h.unknown .specify rfl
  obtain ⟨hreported, -, -⟩ := load_unknown_stage (hf _) (Disk.fromUTF8?_toUTF8 _) hlaunch
  obtain ⟨-, hshape, -⟩ := load_unknown_stage (hf _) (Disk.fromUTF8?_toUTF8 _) hentry
  obtain ⟨-, -, hnamed⟩ := load_unknown_stage (hf _) (Disk.fromUTF8?_toUTF8 _) hd
  exact ⟨(hreported _ "launch").2 ⟨rfl, rfl, hunknown⟩,
    hshape [("launch", .null)] "launch" rfl (by simp) hunknown hspecify,
    fields, hd, hload, hnamed strange hload⟩

end Store

end StageGate
