import Mathlib.Data.List.Forall2
import Mathlib.Data.List.Induction
import StageGate.Json.Basic

/-!
The fields of an object as they are kept: in the order of their keys, each key once. Under every key
stands what was put in last.
-/

set_option autoImplicit false

namespace StageGate.Json

/-! ### One field more -/

theorem field?_insertField (key k : String) (v : Json) (fs : List (String × Json)) :
    field? key (insertField k v fs) = if key = k then some v else field? key fs := by
  induction fs with
  | nil => simp [insertField, field?_cons, eq_comm]
  | cons f fs ih =>
    obtain ⟨k', v'⟩ := f
    simp only [insertField]
    split
    · next h =>
      subst h
      simp only [field?_cons, eq_comm]
      split <;> rfl
    · split
      · simp only [field?_cons, eq_comm]
      · next h _ =>
        simp only [field?_cons, ih]
        split <;> split <;> simp_all

theorem mem_insertField {k : String} {v : Json} {fs : List (String × Json)} {f : String × Json}
    (h : f ∈ insertField k v fs) : f = (k, v) ∨ f ∈ fs := by
  induction fs with
  | nil => simpa [insertField] using h
  | cons g fs ih =>
    obtain ⟨k', v'⟩ := g
    simp only [insertField] at h
    split at h
    · rcases List.mem_cons.1 h with h | h
      · exact .inl h
      · exact .inr (List.mem_cons_of_mem _ h)
    · split at h
      · exact List.mem_cons.1 h
      · rcases List.mem_cons.1 h with h | h
        · exact .inr (h ▸ List.mem_cons_self)
        · exact (ih h).imp_right (List.mem_cons_of_mem _)

/-- The keys stand in order, so none of them stands twice. -/
def Ordered (fields : List (String × Json)) : Prop := fields.Pairwise (·.1 < ·.1)

theorem Ordered.insertField {fs : List (String × Json)} (h : Ordered fs) (k : String) (v : Json) :
    Ordered (Json.insertField k v fs) := by
  induction fs with
  | nil => exact List.pairwise_singleton _ _
  | cons f fs ih =>
    obtain ⟨k', v'⟩ := f
    obtain ⟨hlt, hfs⟩ := List.pairwise_cons.1 h
    simp only [Json.insertField]
    split
    · next he =>
      subst he
      exact List.pairwise_cons.2 ⟨hlt, hfs⟩
    · next hne =>
      split
      · next hk =>
        refine List.pairwise_cons.2 ⟨fun g hg => ?_, h⟩
        rcases List.mem_cons.1 hg with rfl | hg
        · exact hk
        · exact String.lt_trans hk (hlt g hg)
      · next hk =>
        refine List.pairwise_cons.2 ⟨fun g hg => ?_, ih hfs⟩
        rcases mem_insertField hg with rfl | hg
        · exact Std.lt_of_le_of_ne (String.not_lt.1 hk) (Ne.symm hne)
        · exact hlt g hg

theorem Ordered.mem_iff {fs : List (String × Json)} (h : Ordered fs) {k : String} {v : Json} :
    (k, v) ∈ fs ↔ field? k fs = some v := by
  induction fs with
  | nil => simp
  | cons f fs ih =>
    obtain ⟨k', v'⟩ := f
    obtain ⟨hlt, hfs⟩ := List.pairwise_cons.1 h
    rw [field?_cons, List.mem_cons, ih hfs, Prod.mk.injEq]
    split
    · next he =>
      subst he
      have hn : field? k' fs ≠ some v := fun hv =>
        String.lt_irrefl k' (hlt (k', v) ((ih hfs).2 hv))
      simp [hn, eq_comm]
    · next hne => simp [Ne.symm hne]

def SameKey (R : Json → Json → Prop) (f g : String × Json) : Prop := f.1 = g.1 ∧ R f.2 g.2

theorem forall₂_insertField {R : Json → Json → Prop} {fs gs : List (String × Json)}
    (h : List.Forall₂ (SameKey R) fs gs) (k : String) {v w : Json} (hvw : R v w) :
    List.Forall₂ (SameKey R) (insertField k v fs) (insertField k w gs) := by
  induction h with
  | nil => exact .cons ⟨rfl, hvw⟩ .nil
  | @cons f g fs gs hfg h ih =>
    obtain ⟨k', v'⟩ := f
    obtain ⟨_, w'⟩ := g
    obtain ⟨rfl, hvw'⟩ := hfg
    simp only [insertField]
    split
    · exact .cons ⟨rfl, hvw⟩ h
    · split
      · exact .cons ⟨rfl, hvw⟩ (.cons ⟨rfl, hvw'⟩ h)
      · exact .cons ⟨rfl, hvw'⟩ ih

/-! ### All fields -/

def inOrder (fields : List (String × Json)) : List (String × Json) :=
  fields.foldl (fun acc (k, v) => insertField k v acc) []

theorem ofFields_eq (fields : List (String × Json)) : ofFields fields = .object (inOrder fields) := rfl

theorem inOrder_append_singleton (fs : List (String × Json)) (f : String × Json) :
    inOrder (fs ++ [f]) = insertField f.1 f.2 (inOrder fs) := by
  rw [inOrder, List.foldl_append]
  rfl

theorem field?_inOrder (key : String) (fs : List (String × Json)) :
    field? key (inOrder fs) = fs.reverse.lookup key := by
  induction fs using List.reverseRecOn with
  | nil => rfl
  | append_singleton fs f ih =>
    rw [inOrder_append_singleton, field?_insertField, ih, List.reverse_append,
      List.reverse_singleton, List.singleton_append, List.lookup_cons]
    by_cases h : key = f.1
    · simp [h]
    · simp [h, beq_eq_false_iff_ne.2 h]

theorem ordered_inOrder (fs : List (String × Json)) : Ordered (inOrder fs) := by
  induction fs using List.reverseRecOn with
  | nil => exact List.Pairwise.nil
  | append_singleton fs f ih =>
    rw [inOrder_append_singleton]
    exact ih.insertField f.1 f.2

/-- Fields that were alike before they were put in order are alike afterwards, in the same places. -/
theorem forall₂_inOrder {R : Json → Json → Prop} {fs gs : List (String × Json)}
    (h : List.Forall₂ (SameKey R) fs gs) : List.Forall₂ (SameKey R) (inOrder fs) (inOrder gs) := by
  refine List.rel_foldl (P := List.Forall₂ (SameKey R)) (fun kept kept' hk f g hfg => ?_) .nil h
  obtain ⟨k, v⟩ := f
  obtain ⟨_, w⟩ := g
  obtain ⟨rfl, hvw⟩ := hfg
  exact forall₂_insertField hk k hvw

end StageGate.Json
