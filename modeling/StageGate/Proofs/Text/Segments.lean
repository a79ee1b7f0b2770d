import Mathlib.Data.List.TakeWhile
import StageGate.Proofs.Text.Digits
import StageGate.Text.Split

/-!
The pieces between separators. They hold no separator and give the text back when it is put between them
again; and blanks at the ends of the text do not count when each piece is trimmed by itself.
-/

set_option autoImplicit false

namespace StageGate.Text

variable {sep : Char} {cs piece : List Char}

/-! ### Pieces -/

theorem split_of_notMem (h : sep ∉ cs) : split sep cs = [cs] := by
  induction cs with
  | nil => rfl
  | cons c cs ih =>
    have hc : c ≠ sep := fun he => h (by simp [he])
    simp [split, hc, ih fun hm => h (by simp [hm])]

theorem split_cons_of_ne {c : Char} (h : c ≠ sep) (cs : List Char) :
    ∃ p ps, split sep cs = p :: ps ∧ split sep (c :: cs) = (c :: p) :: ps := by
  cases hs : split sep cs with
  | nil => exact absurd hs (split_ne_nil sep cs)
  | cons p ps => exact ⟨p, ps, rfl, by simp [split, h, hs]⟩

theorem notMem_of_mem_split (h : piece ∈ split sep cs) : sep ∉ piece := by
  induction cs generalizing piece with
  | nil => simp_all [split]
  | cons c cs ih =>
    by_cases hc : c = sep
    · simp only [split, hc, if_true, List.mem_cons] at h
      rcases h with rfl | h
      · simp
      · exact ih h
    · obtain ⟨p, ps, hs, hcons⟩ := split_cons_of_ne hc cs
      rw [hcons] at h
      rcases List.mem_cons.1 h with rfl | h
      · have hp : sep ∉ p := ih (by simp [hs])
        simp [Ne.symm hc, hp]
      · exact ih (by simp [hs, h])

theorem intercalate_split (sep : Char) (cs : List Char) : [sep].intercalate (split sep cs) = cs := by
  induction cs with
  | nil => rfl
  | cons c cs ih =>
    by_cases hc : c = sep
    · cases hs : split sep cs with
      | nil => exact absurd hs (split_ne_nil sep cs)
      | cons p ps =>
        rw [hs] at ih
        simp [split, hc, hs, List.intercalate_cons_cons, ih]
    · obtain ⟨p, ps, hs, hcons⟩ := split_cons_of_ne hc cs
      rw [hs] at ih
      rw [hcons]
      cases ps <;> simp_all [List.intercalate_cons_cons]

theorem split_intercalate {pieces : List (List Char)} (hne : pieces ≠ [])
    (h : ∀ p ∈ pieces, sep ∉ p) : split sep ([sep].intercalate pieces) = pieces := by
  induction pieces with
  | nil => exact absurd rfl hne
  | cons p ps ih =>
    have hp : sep ∉ p := h p (by simp)
    cases ps with
    | nil => rw [List.intercalate_singleton, split_of_notMem hp]
    | cons q qs =>
      have hqs := ih (by simp) fun k hk => h k (by simp [hk])
      rw [List.intercalate_cons_cons, List.append_assoc, List.singleton_append, split_append,
        split_of_notMem hp, hqs, List.singleton_append]

theorem splitFirst_eq_some_iff {a b : List Char} :
    splitFirst sep cs = some (a, b) ↔ cs = a ++ sep :: b ∧ sep ∉ a := by
  refine ⟨splitFirst_eq_some, ?_⟩
  rintro ⟨rfl, h⟩
  induction a with
  | nil => simp [splitFirst]
  | cons c a ih =>
    have hc : c ≠ sep := fun he => h (by simp [he])
    have ha := ih fun hm => h (by simp [hm])
    simp [splitFirst, hc, ha]

/-! ### Trimming -/

theorem trimStart_cons_of_blank {c : Char} (h : isBlank c = true) (cs : List Char) :
    trimStart (c :: cs) = trimStart cs := by simp [trimStart, h]

theorem trimStart_cons_of_not_blank {c : Char} (h : isBlank c = false) (cs : List Char) :
    trimStart (c :: cs) = c :: cs := by simp [trimStart, h]

theorem trimEnd_cons (c : Char) (cs : List Char) :
    trimEnd (c :: cs) = if trimEnd cs = [] ∧ isBlank c = true then [] else c :: trimEnd cs := by
  cases hcs : cs.reverse.dropWhile isBlank with
  | nil => cases hc : isBlank c <;> simp [trimEnd, List.dropWhile_append, hcs, hc]
  | cons d ds => simp [trimEnd, List.dropWhile_append, hcs]

theorem trimEnd_trimStart (cs : List Char) : trimEnd (trimStart cs) = trimStart (trimEnd cs) := by
  induction cs with
  | nil => rfl
  | cons c cs ih =>
    cases hc : isBlank c with
    | true =>
      rw [trimStart_cons_of_blank hc, ih, trimEnd_cons]
      split
      · next h => rw [h.1]
      · rw [trimStart_cons_of_blank hc]
    | false => simp [trimStart_cons_of_not_blank hc, trimEnd_cons, hc]

theorem exists_append_trimEnd (cs : List Char) :
    ∃ blanks, cs = trimEnd cs ++ blanks ∧ ∀ b ∈ blanks, isBlank b = true := by
  refine ⟨(cs.reverse.takeWhile isBlank).reverse, ?_, fun b hb => ?_⟩
  · rw [trimEnd, ← List.reverse_append, List.takeWhile_append_dropWhile, List.reverse_reverse]
  · exact List.mem_takeWhile_imp (List.mem_reverse.1 hb)

/-- The second text is what is left of the first one without the blanks at its ends. -/
structure TrimsTo (s t : String) : Prop where
  cut : ∃ before after, s.toList = before ++ t.toList ++ after ∧
    (∀ c ∈ before, isBlank c = true) ∧ ∀ c ∈ after, isBlank c = true
  front : ∀ c ∈ t.toList.head?, isBlank c = false
  back : ∀ c ∈ t.toList.getLast?, isBlank c = false

theorem trimsTo_trimmed (s : String) : TrimsTo s (trimmed s) := by
  obtain ⟨after, hafter, hblank⟩ := exists_append_trimEnd (trimStart s.toList)
  refine ⟨⟨s.toList.takeWhile isBlank, after, ?_, fun c hc => List.mem_takeWhile_imp hc, hblank⟩, ?_, ?_⟩
  · have hs : s.toList = s.toList.takeWhile isBlank ++ trimStart s.toList :=
      List.takeWhile_append_dropWhile.symm
    rw [trimmed, String.toList_ofList, List.append_assoc, trim, ← hafter, ← hs]
  · rw [trimmed, String.toList_ofList, trim, trimEnd_trimStart]
    exact stops_dropWhile isBlank _
  · rw [trimmed, String.toList_ofList, trim, trimEnd, List.getLast?_reverse]
    exact stops_dropWhile isBlank _

theorem map_trimEnd_split_append {blanks : List Char} (hsep : isBlank sep = false)
    (h : ∀ b ∈ blanks, isBlank b = true) (cs : List Char) :
    (split sep (cs ++ blanks)).map trimEnd = (split sep cs).map trimEnd := by
  induction cs with
  | nil =>
    have hnot : sep ∉ blanks := fun hm => by simp [h sep hm] at hsep
    have hnil : trimEnd blanks = [] := by
      rw [trimEnd, ← trimStart, trimStart_eq_nil_iff.2 (by simpa using h), List.reverse_nil]
    simp only [List.nil_append, split_of_notMem hnot, split, List.map_cons, List.map_nil, hnil]
    rfl
  | cons c cs ih =>
    by_cases hc : c = sep
    · simp [split, hc, ih]
    · obtain ⟨p, ps, hs, hcons⟩ := split_cons_of_ne hc cs
      obtain ⟨q, qs, hs', hcons'⟩ := split_cons_of_ne hc (cs ++ blanks)
      rw [hs, hs', List.map_cons, List.map_cons, List.cons.injEq] at ih
      rw [List.cons_append, hcons, hcons', List.map_cons, List.map_cons, trimEnd_cons, trimEnd_cons,
        ih.1, ih.2]

theorem map_trim_split_trimStart (hsep : isBlank sep = false) (cs : List Char) :
    (split sep (trimStart cs)).map trim = (split sep cs).map trim := by
  induction cs with
  | nil => rfl
  | cons c cs ih =>
    cases hc : isBlank c with
    | false => rw [trimStart_cons_of_not_blank hc]
    | true =>
      have hne : c ≠ sep := fun he => by simp [he, hsep] at hc
      obtain ⟨p, ps, hs, hcons⟩ := split_cons_of_ne hne cs
      rw [trimStart_cons_of_blank hc, ih, hs, hcons, List.map_cons, List.map_cons, trim, trim,
        trimStart_cons_of_blank hc]

/-- A text and what is left of it when it is trimmed have the same pieces, each of them trimmed. -/
theorem map_trim_split_trim (hsep : isBlank sep = false) (cs : List Char) :
    (split sep (trim cs)).map trim = (split sep cs).map trim := by
  have hmap (ps : List (List Char)) : ps.map trim = (ps.map trimEnd).map trimStart := by
    rw [List.map_map]
    exact List.map_congr_left fun p _ => trimEnd_trimStart p
  obtain ⟨blanks, hb, hblank⟩ := exists_append_trimEnd (trimStart cs)
  rw [← map_trim_split_trimStart hsep cs, hmap, hmap, trim, ← map_trimEnd_split_append hsep hblank, ← hb]

end StageGate.Text
