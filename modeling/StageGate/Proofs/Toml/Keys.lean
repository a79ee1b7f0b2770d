import StageGate.Toml.Reader

/-!
The keys of a table. Every statement of a document sets one key at the top of what was read so far, and
setting a key keeps one part for each key. So the table of a document has no key twice.
-/

set_option autoImplicit false

namespace StageGate.Toml

def Distinct {α : Type} (fields : List (String × α)) : Prop := (fields.map Prod.fst).Nodup

theorem distinct_nil {α : Type} : Distinct ([] : List (String × α)) := List.nodup_nil

theorem distinct_cons {α : Type} {key : String} {a : α} {rest : List (String × α)} :
    Distinct ((key, a) :: rest) ↔ key ∉ rest.map Prod.fst ∧ Distinct rest := List.nodup_cons

/-! ### Documents under construction -/

variable {key : String} {keys : List String} {part : Part} {ps qs : Parts} {v : Toml}

theorem Parts.distinct_set (h : Distinct ps) : Distinct (set key part ps) := by
  unfold set
  split
  · rw [Distinct, List.map_map]
    refine (congrArg List.Nodup (List.map_congr_left fun f _ => ?_)).mpr h
    by_cases hf : f.1 = key <;> simp [hf]
  · next hnew =>
    refine distinct_cons.2 ⟨fun hmem => hnew ?_, h⟩
    obtain ⟨f, hf, rfl⟩ := List.mem_map.1 hmem
    exact List.any_eq_true.2 ⟨f, hf, by simp⟩

/-- All that a change below some keys does to a table is to set one key. -/
theorem Parts.exists_set_of_changeAt {change : Parts → Option Parts}
    (hchange : change ps = some qs → ∃ k p, qs = set k p ps) (h : changeAt change keys ps = some qs) :
    ∃ k p, qs = set k p ps := by
  cases keys with
  | nil => exact hchange h
  | cons k ks =>
    simp only [changeAt] at h
    split at h
    · obtain ⟨sub, -, rfl⟩ := Option.map_eq_some_iff.1 h
      exact ⟨k, _, rfl⟩
    · obtain ⟨sub, -, rfl⟩ := Option.map_eq_some_iff.1 h
      exact ⟨k, _, rfl⟩
    · obtain ⟨es, -, rfl⟩ := Option.map_eq_some_iff.1 h
      exact ⟨k, _, rfl⟩
    · cases h

theorem Parts.exists_set_of_insert (h : insert v keys ps = some qs) : ∃ k p, qs = set k p ps := by
  match keys with
  | [] => cases h
  | [k] =>
    simp only [insert] at h
    split at h
    · cases h
    · exact ⟨k, _, (Option.some.inj h).symm⟩
  | k :: k' :: ks =>
    simp only [insert] at h
    split at h
    · obtain ⟨sub, -, rfl⟩ := Option.map_eq_some_iff.1 h
      exact ⟨k, _, rfl⟩
    · split at h
      · cases h
      · obtain ⟨sub, -, rfl⟩ := Option.map_eq_some_iff.1 h
        exact ⟨k, _, rfl⟩
    · cases h

theorem Parts.exists_set_of_state (h : state key ps = some qs) : ∃ k p, qs = set k p ps := by
  unfold state at h
  split at h
  · exact ⟨key, _, (Option.some.inj h).symm⟩
  · exact ⟨key, _, (Option.some.inj h).symm⟩
  · cases h

theorem Parts.exists_set_of_append (h : append key ps = some qs) : ∃ k p, qs = set k p ps := by
  unfold append at h
  split at h
  · exact ⟨key, _, (Option.some.inj h).symm⟩
  · exact ⟨key, _, (Option.some.inj h).symm⟩
  · cases h

namespace Draft

variable {d e : Draft} {s : Statement}

theorem exists_set_of_add (h : d.add s = some e) : ∃ k p, e.parts = Parts.set k p d.parts := by
  cases s with
  | pair keys v =>
    obtain ⟨parts, hp, rfl⟩ := Option.map_eq_some_iff.1 h
    exact Parts.exists_set_of_changeAt Parts.exists_set_of_insert hp
  | header keys =>
    simp only [add] at h
    split at h
    · cases h
    · obtain ⟨parts, hp, rfl⟩ := Option.map_eq_some_iff.1 h
      exact Parts.exists_set_of_changeAt Parts.exists_set_of_state hp
  | arrayHeader keys =>
    simp only [add] at h
    split at h
    · cases h
    · obtain ⟨parts, hp, rfl⟩ := Option.map_eq_some_iff.1 h
      exact Parts.exists_set_of_changeAt Parts.exists_set_of_append hp

theorem distinct_of_foldlM {statements : List Statement} (hd : Distinct d.parts)
    (h : statements.foldlM add d = some e) : Distinct e.parts := by
  induction statements generalizing d with
  | nil =>
    cases h
    exact hd
  | cons s statements ih =>
    obtain ⟨next, hs, hrest⟩ := Option.bind_eq_some_iff.1 h
    obtain ⟨k, p, hset⟩ := exists_set_of_add hs
    exact ih (hset ▸ Parts.distinct_set hd) hrest

end Draft

/-! ### Documents -/

theorem perm_insertField (key : String) (v : Toml) (fields : List (String × Toml)) :
    (insertField key v fields).Perm ((key, v) :: fields) := by
  induction fields with
  | nil => exact .refl _
  | cons f rest ih =>
    obtain ⟨k, w⟩ := f
    simp only [insertField]
    split
    · exact .refl _
    · exact (ih.cons (k, w)).trans (.swap _ _ _)

theorem keys_tableFields (ps : Parts) : ((tableFields ps).map Prod.fst).Perm (ps.map Prod.fst) := by
  induction ps with
  | nil => exact .refl _
  | cons f ps ih =>
    obtain ⟨k, p⟩ := f
    rw [tableFields]
    exact ((perm_insertField k _ _).map Prod.fst).trans (ih.cons k)

theorem distinct_of_parse {text : String} {fields : List (String × Toml)} (h : parse? text = some fields) :
    Distinct fields := by
  obtain ⟨statements, -, hs⟩ := Option.bind_eq_some_iff.1 h
  obtain ⟨d, hd, rfl⟩ := Option.map_eq_some_iff.1 hs
  exact (keys_tableFields d.parts).nodup_iff.2 (Draft.distinct_of_foldlM distinct_nil hd)

end StageGate.Toml
