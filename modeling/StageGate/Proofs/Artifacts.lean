import StageGate.Proofs.Command.Change
import StageGate.Proofs.Results

/-!
The documents of the stages. Validate finds no fault with them exactly when each stage from the proposal
to the tasks has left a text that is not blank.
-/

set_option autoImplicit false

namespace StageGate

/-- The stage has a document, and it is a text with a character that is not blank. -/
def ArtifactReady (l : Layout) (d : Disk) (s : Stage) : Prop :=
  ∃ path bytes text, l.artifact? s = some path ∧ d.find path = .ok (.file bytes) ∧
    String.fromUTF8? bytes = some text ∧ ∃ c ∈ text.toList, Text.isBlank c = false

/-- The documents of all stages that have one, but for that of the final stage, are ready. -/
def ArtifactsReady (l : Layout) (d : Disk) : Prop :=
  ∀ s ∈ [Stage.propose, .specify, .clarify, .design, .tasks], ArtifactReady l d s

theorem Disk.textOf_eq_ok {bytes : ByteArray} {text : String} :
    Disk.textOf (.file bytes) = .ok text ↔ String.fromUTF8? bytes = some text := by
  cases ht : String.fromUTF8? bytes <;> simp [Disk.textOf, ht]

theorem Disk.fromUTF8?_toUTF8 (text : String) : String.fromUTF8? text.toUTF8 = some text :=
  textOf_eq_ok.1 (textOf_toUTF8 text)

namespace Command

variable {l : Layout} {d : Disk} {s : Stage}

theorem readText_eq_ok {path : Path} {text : String} : d.readText path = .ok text ↔
    ∃ bytes, d.find path = .ok (.file bytes) ∧ String.fromUTF8? bytes = some text := by
  cases hf : d.find path with
  | error e => simp [Disk.readText, hf, bind, Except.bind]
  | ok item =>
    cases item with
    | folder => simp [Disk.readText, hf, Disk.textOf, bind, Except.bind]
    | file bytes => simp [Disk.readText, hf, bind, Except.bind, Disk.textOf_eq_ok]

theorem isBlankText_eq_false {text : String} :
    Text.isBlankText text = false ↔ ∃ c ∈ text.toList, Text.isBlank c = false := by
  simp [Text.isBlankText]

theorem checkArtifact_eq_ok {path : Path} (hp : l.artifact? s = some path) :
    checkArtifact l d s = .ok () ↔ ArtifactReady l d s := by
  have hc : checkArtifact l d s = .ok () ↔
      ∃ text, d.readText path = .ok text ∧ Text.isBlankText text = false := by
    cases ht : d.readText path with
    | error e => simp [checkArtifact, hp, ht]
    | ok text => simp [checkArtifact, hp, ht]
  rw [hc]
  constructor
  · rintro ⟨text, ht, hb⟩
    obtain ⟨bytes, hf, hu⟩ := readText_eq_ok.1 ht
    exact ⟨path, bytes, text, hp, hf, hu, isBlankText_eq_false.1 hb⟩
  · rintro ⟨path', bytes, text, hp', hf, hu, hb⟩
    obtain rfl : path = path' := by simpa [hp] using hp'
    exact ⟨text, readText_eq_ok.2 ⟨bytes, hf, hu⟩, isBlankText_eq_false.2 hb⟩

theorem exists_artifact (l : Layout) (h : s ∈ [Stage.propose, .specify, .clarify, .design, .tasks]) :
    ∃ path, l.artifact? s = some path := by
  cases s with
  | init => simp at h
  | _ => exact ⟨_, rfl⟩

theorem order_filter_eq : (Stage.order.filter fun s => !s.isFinal) =
    .init :: [Stage.propose, .specify, .clarify, .design, .tasks] := by decide

theorem artifactsFault_eq_ok : artifactsFault l d = .ok () ↔ ArtifactsReady l d := by
  have hi : checkArtifact l d .init = .ok () := rfl
  rw [artifactsFault, order_filter_eq, forM_eq_ok, List.forall_mem_cons, and_iff_right hi]
  refine forall₂_congr fun s hs => ?_
  obtain ⟨path, hp⟩ := exists_artifact l hs
  exact checkArtifact_eq_ok hp

theorem checkArtifact_congr {d' : Disk}
    (h : ∀ path, l.artifact? s = some path → d'.readText path = d.readText path) :
    checkArtifact l d' s = checkArtifact l d s := by
  cases hs : l.artifact? s with
  | none => simp [checkArtifact, hs]
  | some path => simp [checkArtifact, hs, h path hs]

theorem artifactsFault_congr {d' : Disk}
    (h : ∀ s ∈ [Stage.propose, .specify, .clarify, .design, .tasks], ∀ path,
      l.artifact? s = some path → d'.readText path = d.readText path) :
    artifactsFault l d' = artifactsFault l d := by
  rw [artifactsFault, artifactsFault, order_filter_eq]
  refine forM_congr (List.forall_mem_cons.2 ⟨rfl, fun s hs => ?_⟩)
  exact checkArtifact_congr (h s hs)

theorem checkArtifact_eq_error {path : Path} {e : Failure} (hp : l.artifact? s = some path)
    (h : checkArtifact l d s = .error e) :
    (∃ fault, d.readText path = .error fault ∧ e = .onDisk (.readArtifact s) path fault) ∨
    ∃ text, d.readText path = .ok text ∧ Text.isBlankText text = true ∧ e = .blankArtifact path := by
  cases ht : d.readText path with
  | error fault =>
    simp only [checkArtifact, hp, ht, Except.error.injEq] at h
    exact Or.inl ⟨fault, rfl, h.symm⟩
  | ok text =>
    simp only [checkArtifact, hp, ht] at h
    split at h
    · next hb =>
      cases h
      exact Or.inr ⟨text, rfl, hb, rfl⟩
    · cases h

/-- The fault that is reported is that of the first document that is not ready. -/
theorem artifactsFault_eq_error {e : Failure} (h : artifactsFault l d = .error e) :
    ∃ s ∈ [Stage.propose, .specify, .clarify, .design, .tasks],
      (∀ t ∈ [Stage.propose, .specify, .clarify, .design, .tasks], t.position < s.position →
        ArtifactReady l d t) ∧
      checkArtifact l d s = .error e := by
  rw [artifactsFault, order_filter_eq] at h
  obtain ⟨before, s, after, hsplit, hbefore, hs⟩ := forM_eq_error h
  have hsorted : (before ++ s :: after).Pairwise fun s t => s.position < t.position := by
    rw [← hsplit]
    decide
  have hmem : s ∈ .init :: [Stage.propose, .specify, .clarify, .design, .tasks] := by
    rw [hsplit]
    simp
  have hinit : s ≠ .init := by
    rintro rfl
    cases hs
  refine ⟨s, (List.mem_cons.1 hmem).resolve_left hinit, fun t ht hlt => ?_, hs⟩
  have ht' : t ∈ before ++ s :: after := by
    rw [← hsplit]
    exact List.mem_cons_of_mem _ ht
  obtain ⟨path, hp⟩ := exists_artifact l ht
  rcases List.mem_append.1 ht' with hb | hsa
  · exact (checkArtifact_eq_ok hp).1 (hbefore t hb)
  · -- it would stand at the stage or behind it
    have hle := (List.pairwise_append.1 hsorted).2.1
    rcases List.mem_cons.1 hsa with rfl | ha
    · omega
    · have := (List.pairwise_cons.1 hle).1 t ha
      omega

end Command

end StageGate
