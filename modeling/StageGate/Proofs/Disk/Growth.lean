import StageGate.Proofs.Disk.Making

/-!
A disk grows when folders are made: what stood there stays, and all that is new is folders where nothing
stood before. So no file is made, changed or taken away.
-/

set_option autoImplicit false

namespace StageGate.Disk

/-- New folders are all that the second disk has beside what stands on the first one. -/
structure Grows (d made : Disk) : Prop where
  here : made.here = d.here
  below (place : Place) : made.below place = d.below place ∨
    d.below place = none ∧ made.below place = some .folder

namespace Grows

variable {d made last : Disk}

theorem refl (d : Disk) : Grows d d := ⟨rfl, fun _ => Or.inl rfl⟩

theorem trans (h : Grows d made) (h' : Grows made last) : Grows d last where
  here := h'.here.trans h.here
  below place := by
    rcases h.below place with hp | ⟨hn, hp⟩
    · rw [← hp]
      exact h'.below place
    · rcases h'.below place with hl | ⟨hn', -⟩
      · exact Or.inr ⟨hn, hl.trans hp⟩
      · simp [hp] at hn'

theorem item?_eq_file {place : Place} {bytes : ByteArray} (h : Grows d made) :
    made.item? place = some (.file bytes) ↔ d.item? place = some (.file bytes) := by
  unfold item?
  split
  · rfl
  · rcases h.below place with hp | ⟨hn, hp⟩
    · rw [hp]
    · simp [hn, hp]

theorem item?_of_some {place : Place} {item : Item} (h : Grows d made) (hi : d.item? place = some item) :
    made.item? place = some item := by
  unfold item? at hi ⊢
  split
  · next hp => simpa [hp] using hi
  · next hp =>
    rw [if_neg hp] at hi
    rcases h.below place with hb | ⟨hn, -⟩
    · rw [hb, hi]
    · simp [hn] at hi

theorem of_makeFolder {p : Path} (h : d.makeFolder p = .ok made) : Grows d made := by
  obtain ⟨_, last, _, folder, -, -, -, -, -, -, -, -, hi, rfl⟩ := makeFolder_eq_ok h
  refine ⟨rfl, fun place => ?_⟩
  by_cases hp : place = folder ++ [last]
  · subst hp
    exact Or.inr ⟨by simpa [item?] using hi, put_below_self d _ _⟩
  · exact Or.inl (put_below_of_ne d _ hp)

theorem of_makeFirst (d : Disk) (ps : List Path) : Grows d (d.makeFirst ps).2 := by
  induction ps with
  | nil => exact .refl d
  | cons p above ih =>
    simp only [makeFirst]
    split
    · next hm => exact .of_makeFolder hm
    · split
      · next ha =>
        rw [ha] at ih
        exact ih
      · next ha =>
        rw [ha] at ih
        split
        · next hm => exact ih.trans (.of_makeFolder hm)
        · exact ih
    · exact .refl d

theorem of_makeFolders (d : Disk) (p : Path) : Grows d (d.makeFolders p).2 := by
  rw [makeFolders]
  split
  · exact .refl d
  · exact .of_makeFirst d _

end Grows

end StageGate.Disk
