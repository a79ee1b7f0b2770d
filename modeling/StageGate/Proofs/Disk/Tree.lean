import StageGate.Proofs.Disk.Growth

/-!
Disks on which everything stands in a folder. Down such a disk a path leads on as far as anything stands
there: folders that are made later do not open a way to what stood there before. Only a path that goes up
again can come through a new folder to something old.
-/

set_option autoImplicit false

namespace StageGate.Disk

/-- Whatever stands on the disk stands in a folder. -/
def IsTree (d : Disk) : Prop :=
  ∀ place part, (d.item? (place ++ [part])).isSome = true → d.item? place = some .folder

variable {d made : Disk} {place q r : Place} {part name : String} {parts : List String}

theorem isTree_empty (here : Place) : (empty here).IsTree := by
  intro place part h
  have hp : place ++ [part] <+: here := by
    by_contra hn
    simp [item?, empty, hn] at h
  simp [item?, empty, (List.prefix_append place [part]).trans hp]

theorem step_eq_ok_of_ne_up (h : part ≠ "..") : d.step q part = .ok r ↔
    d.item? q = some .folder ∧
      if part = "" ∨ part = "." then r = q else r = q ++ [part] ∧ (d.item? r).isSome = true := by
  cases hq : d.item? q with
  | none => simp [step, hq]
  | some item =>
    cases item with
    | file bytes => simp [step, hq]
    | folder =>
      simp only [step, hq, h, if_false, true_and]
      split
      · rw [Except.ok.injEq, eq_comm]
      · split
        · next hi =>
          rw [Except.ok.injEq, eq_comm, iff_self_and]
          rintro rfl
          exact hi
        · next hi =>
          simp only [reduceCtorEq, false_iff]
          rintro ⟨rfl, hr⟩
          exact hi hr

theorem prefix_of_walk (hup : ".." ∉ parts) (h : d.walk q parts = .ok r) : q <+: r := by
  induction parts generalizing q with
  | nil =>
    obtain rfl : q = r := Except.ok.inj h
    exact List.prefix_refl q
  | cons part parts ih =>
    simp only [List.mem_cons, not_or] at hup
    obtain ⟨m, hs, hw⟩ := walk_eq_ok_cons.1 h
    have hm := ((step_eq_ok_of_ne_up (Ne.symm hup.1)).1 hs).2
    have hqm : q <+: m := by
      split at hm
      · subst hm
        exact List.prefix_refl m
      · exact ⟨[part], hm.1.symm⟩
    exact hqm.trans (ih hup.2 hw)

namespace IsTree

/-- What is put into a folder stands in a folder; only a folder with something in it may not give way to a
file. -/
theorem put {item : Item} (h : d.IsTree) (hfolder : d.item? q = some .folder)
    (hfree : d.item? (q ++ [name]) = none ∨ item = .folder) : (d.put (q ++ [name]) item).IsTree := by
  intro place part hi
  have hold : d.item? place = some .folder := by
    by_cases hp : place ++ [part] = q ++ [name]
    · obtain ⟨rfl, -⟩ := List.append_inj' hp rfl
      exact hfolder
    · rw [item?_put_of_ne _ _ hp] at hi
      exact h place part hi
  by_cases hp : place = q ++ [name]
  · subst hp
    rcases hfree with hn | rfl
    · simp [hn] at hold
    · exact item?_put_self _ _ (by simp)
  · rw [item?_put_of_ne _ _ hp, hold]

theorem item?_of_prefix (h : d.IsTree) (hi : (d.item? (q ++ [name])).isSome = true) (hp : place <+: q) :
    d.item? place = some .folder := by
  obtain ⟨rest, rfl⟩ := hp
  induction rest generalizing place with
  | nil => exact h place name (by simpa using hi)
  | cons part rest ih =>
    have hpart : d.item? (place ++ [part]) = some .folder := ih (by simpa using hi)
    exact h place part (by simp [hpart])

/-- A path that only goes down to a place above something was there before new folders were made. -/
theorem walk_of_made (h : d.IsTree) (hup : ".." ∉ parts) (hw : made.walk place parts = .ok q)
    (hi : (d.item? (q ++ [name])).isSome = true) : d.walk place parts = .ok q := by
  induction parts generalizing place with
  | nil => exact hw
  | cons part parts ih =>
    have hplace := h.item?_of_prefix hi (prefix_of_walk hup hw)
    simp only [List.mem_cons, not_or] at hup
    obtain ⟨m, hs, hwalk⟩ := walk_eq_ok_cons.1 hw
    have hne : part ≠ ".." := Ne.symm hup.1
    have hm := h.item?_of_prefix hi (prefix_of_walk hup.2 hwalk)
    refine walk_eq_ok_cons.2 ⟨m, (step_eq_ok_of_ne_up hne).2 ⟨hplace, ?_⟩, ih hup.2 hwalk⟩
    have hmade := ((step_eq_ok_of_ne_up hne).1 hs).2
    split at hmade
    · next hblank => rwa [if_pos hblank]
    · next hname =>
      rw [if_neg hname]
      exact ⟨hmade.1, by simp [hm]⟩

theorem enter_of_made {p : Path} (h : d.IsTree) (hhere : made.here = d.here) (hup : ".." ∉ p.steps)
    (hq : made.enter p = .ok q) (hi : (d.item? (q ++ [name])).isSome = true) : d.enter p = .ok q := by
  obtain ⟨hw, -⟩ := enter_eq_ok.1 hq
  have hstart : made.start p = d.start p := by simp [start, hhere]
  rw [hstart] at hw
  exact enter_eq_ok.2 ⟨h.walk_of_made hup hw hi, h.item?_of_prefix hi (List.prefix_refl q)⟩

end IsTree

end StageGate.Disk
