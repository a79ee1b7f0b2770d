import Mathlib.Data.List.DropRight
import StageGate.Proofs.Json.RoundTrip

/-!
What a reader takes off the front of a text does not hang on what stands further behind: with more text
at the end it reads the same and leaves more. Only a number must be followed by something, or it could
go on. So a text that is cut off inside its outermost brackets cannot be read.
-/

set_option autoImplicit false

namespace StageGate.Json

open Text

/-- The reader reads the same when more text follows. -/
def Settled {α : Type} (read : List Char → Option (α × List Char)) : Prop :=
  ∀ cs x rest, read cs = some (x, rest) → ∀ more, read (cs ++ more) = some (x, rest ++ more)

/-- The reader reads the same when more text follows, provided that it has left something over. -/
def SettledBefore {α : Type} (read : List Char → Option (α × List Char)) : Prop :=
  ∀ cs x rest, read cs = some (x, rest) → rest ≠ [] → ∀ more,
    read (cs ++ more) = some (x, rest ++ more)

theorem Settled.map {α β : Type} {read : List Char → Option (α × List Char)} (h : Settled read)
    (f : α → β) : Settled fun cs => (read cs).map fun (x, rest) => (f x, rest) := by
  intro cs y rest hr more
  obtain ⟨⟨x, rest'⟩, hx, he⟩ := Option.map_eq_some_iff.1 hr
  obtain ⟨rfl, rfl⟩ := Prod.mk.inj he
  simp [h cs x _ hx more]

/-! ### Strings -/

theorem push_eq_some {c : Char} {r : Option (List Char × List Char)} {cs rest : List Char} :
    push c r = some (cs, rest) ↔ ∃ ds, r = some (ds, rest) ∧ cs = c :: ds := by
  cases r with
  | none => simp [push]
  | some r =>
    obtain ⟨ds, rest'⟩ := r
    simp only [push, Option.map_some, Option.some.injEq, Prod.mk.injEq]
    constructor
    · rintro ⟨rfl, rfl⟩
      exact ⟨ds, ⟨rfl, rfl⟩, rfl⟩
    · rintro ⟨_, ⟨rfl, rfl⟩, rfl⟩
      exact ⟨rfl, rfl⟩

theorem stringBody?_escaped {c e : Char} (hc : escaped? c = some e) (cs : List Char) :
    stringBody? ('\\' :: c :: cs) = push e (stringBody? cs) := by
  have hu : c ≠ 'u' := by
    rintro rfl
    simp [escaped?] at hc
  rw [stringBody?.eq_def]
  split
  · next h => cases h
  · next h => cases h
  · next h => simp [hu] at h
  · next h =>
    simp only [List.cons.injEq, true_and] at h
    obtain ⟨rfl, rfl⟩ := h
    rw [hc]
  · next hb h =>
    obtain ⟨rfl, rfl⟩ := List.cons.inj h
    exact absurd rfl (hb c cs rfl)

theorem settled_stringBody? : Settled stringBody? := by
  intro cs
  fun_induction stringBody? cs <;> intro x out h more <;>
    simp only [push_eq_some, reduceCtorEq, Option.some.injEq, Prod.mk.injEq] at h
  case case2 =>
    obtain ⟨rfl, rfl⟩ := h
    simp [stringBody?]
  case case6 hn hl hs _ _ _ _ _ _ hm hlow ih =>
    obtain ⟨ds, hr, rfl⟩ := h
    simp [stringBody?, hn, hl, hs, hm, hlow, ih _ _ hr more, push]
  case case9 hn hl hs ih =>
    obtain ⟨ds, hr, rfl⟩ := h
    simp [stringBody?, hn, hl, hs, ih _ _ hr more, push]
  case case11 he ih =>
    obtain ⟨ds, hr, rfl⟩ := h
    rw [List.cons_append, List.cons_append, stringBody?_escaped he, ih _ _ hr more]
    rfl
  case case13 c cs hq _ hb hc ih =>
    obtain ⟨ds, hr, rfl⟩ := h
    have hs : c ≠ '\\' := by
      rintro rfl
      cases cs with
      | nil => simp [stringBody?] at hr
      | cons d cs => exact hb d cs rfl rfl
    rw [List.cons_append, stringBody?_of_plain hq hs hc, ih _ _ hr more]
    rfl

theorem settled_string? : Settled string? := by
  intro cs x rest h more
  cases cs with
  | nil => simp [string?] at h
  | cons c cs =>
    by_cases hc : c = '"'
    · subst hc
      simp only [string?, Option.map_eq_some_iff, Prod.mk.injEq] at h
      obtain ⟨⟨s, out⟩, hs, rfl, rfl⟩ := h
      simp [string?, settled_stringBody? cs s out hs more]
    · simp [string?, hc] at h

/-! ### Numbers -/

theorem digits_append {cs ds rest : List Char} (h : digits cs = (ds, rest)) (hr : rest ≠ [])
    (more : List Char) : digits (cs ++ more) = (ds, rest ++ more) := by
  rw [digits, List.span_eq_takeWhile_dropWhile, Prod.mk.injEq] at h
  obtain ⟨rfl, rfl⟩ := h
  have hs : Stops Char.isDigit (cs.dropWhile Char.isDigit ++ more) := by
    cases hd : cs.dropWhile Char.isDigit with
    | nil => exact absurd hd hr
    | cons c rest =>
      have := List.head_dropWhile_not (l := cs) Char.isDigit (by rw [hd]; simp)
      simpa [hd] using this
  have hrun : ∀ c ∈ cs.takeWhile Char.isDigit, Char.isDigit c = true := fun c hc =>
    List.all_eq_true.1 (List.all_takeWhile (l := cs)) c hc
  have := span_run hrun hs
  rwa [← List.append_assoc, List.takeWhile_append_dropWhile] at this

theorem settled_whole? : SettledBefore whole? := by
  intro cs ds rest h hr more
  unfold whole? at h ⊢
  generalize hd : digits cs = r at h
  obtain ⟨ds', rest'⟩ := r
  split at h
  · simp at h
  · simp at h
  · cases h
    rw [digits_append hd hr more]
    split <;> simp_all

theorem fraction?_cons {c : Char} (hc : c ≠ '.') (cs : List Char) :
    fraction? (c :: cs) = some (none, c :: cs) := by
  unfold fraction?
  split <;> simp_all

theorem settled_fraction? : SettledBefore fraction? := by
  intro cs f rest h hr more
  cases cs with
  | nil => simp_all [fraction?]
  | cons c cs =>
    by_cases hc : c = '.'
    · subst hc
      simp only [fraction?, List.cons_append] at h ⊢
      generalize hd : digits cs = r at h
      obtain ⟨ds, rest'⟩ := r
      cases ds with
      | nil => simp at h
      | cons d ds =>
        cases h
        rw [digits_append hd hr more]
    · rw [fraction?_cons hc] at h
      cases h
      exact fraction?_cons hc _

theorem settled_exponentDigits? (down : Bool) : SettledBefore (exponentDigits? down) := by
  intro cs e rest h hr more
  unfold exponentDigits? at h ⊢
  generalize hd : digits cs = r at h
  obtain ⟨ds, rest'⟩ := r
  cases ds with
  | nil => simp at h
  | cons d ds =>
    cases h
    rw [digits_append hd hr more]

theorem settled_exponent? : SettledBefore exponent? := by
  intro cs e rest h hr more
  cases cs with
  | nil => simp_all [exponent?]
  | cons c cs =>
    by_cases hc : c = 'e' ∨ c = 'E'
    · simp only [exponent?, hc, if_true, List.cons_append] at h ⊢
      split at h
      · exact settled_exponentDigits? false _ _ _ h hr more
      · exact settled_exponentDigits? true _ _ _ h hr more
      · next hp hm =>
        have hd := settled_exponentDigits? false _ _ _ h hr more
        cases cs with
        | nil => simp [exponentDigits?, digits, List.span, List.span.loop] at h
        | cons d ds => split <;> simp_all
    · simp only [exponent?, hc, if_false, Option.some.injEq, Prod.mk.injEq] at h
      obtain ⟨rfl, rfl⟩ := h
      simp [exponent?, hc]

theorem rest_ne_of_fraction? {cs rest : List Char} {f : Option (List Char)}
    (h : fraction? cs = some (f, rest)) (hr : rest ≠ []) : cs ≠ [] := by
  rintro rfl
  simp_all [fraction?]

theorem settled_numeral? (negative : Bool) : SettledBefore (numeral? negative) := by
  intro cs n rest h hr more
  simp only [numeral?, Option.bind_eq_bind, Option.bind_eq_some_iff, Option.pure_def, Option.some.injEq,
    Prod.mk.injEq, Prod.exists] at h
  obtain ⟨w, cs₁, hw, f, cs₂, hf, e, cs₃, he, rfl, rfl⟩ := h
  have h₂ : cs₂ ≠ [] := by
    rintro rfl
    simp_all [exponent?]
  have h₁ : cs₁ ≠ [] := rest_ne_of_fraction? hf h₂
  simp [numeral?, settled_whole? _ _ _ hw h₁ more, settled_fraction? _ _ _ hf h₂ more,
    settled_exponent? _ _ _ he hr more]

theorem settled_numeral?_value (negative : Bool) :
    SettledBefore fun cs => do
      let (n, rest) ← numeral? negative cs
      return (← n.value?, rest) := by
  intro cs v rest h hr more
  simp only [Option.bind_eq_bind, Option.bind_eq_some_iff, Option.pure_def, Option.some.injEq,
    Prod.mk.injEq, Prod.exists] at h
  obtain ⟨n, rest', hn, v', hv, rfl, rfl⟩ := h
  simp [settled_numeral? negative _ _ _ hn hr more, hv]

theorem number?_nil : number? [] = none := by
  simp [number?, numeral?, whole?, digits, List.span, List.span.loop]

theorem settled_number? : SettledBefore number? := by
  intro cs v rest h hr more
  cases cs with
  | nil => simp [number?_nil] at h
  | cons c cs =>
    by_cases hc : c = '-'
    · subst hc
      exact settled_numeral?_value true cs v rest h hr more
    · have hn (ds : List Char) : number? (c :: ds) = (do
          let (n, rest) ← numeral? false (c :: ds)
          return (← n.value?, rest)) := by
        unfold number?
        split
        · next hd => exact absurd (List.cons.inj hd).1 hc
        · rfl
      rw [hn] at h
      rw [List.cons_append, hn]
      exact settled_numeral?_value false (c :: cs) v rest h hr more

/-! ### Brackets -/

theorem skipSpace_append {cs : List Char} (h : skipSpace cs ≠ []) (more : List Char) :
    skipSpace (cs ++ more) = skipSpace cs ++ more := by
  induction cs with
  | nil => simp [skipSpace] at h
  | cons c cs ih =>
    by_cases hc : isSpace c = true
    · simp only [skipSpace, List.cons_append, List.dropWhile_cons, hc, if_true] at h ⊢
      exact ih h
    · simp [skipSpace, hc]

variable {α : Type} {member? : List Char → Option (α × List Char)} {closing : Char}

theorem members?_succ_eq_some {n : Nat} {cs rest : List Char} {xs : List α} :
    members? member? closing (n + 1) cs = some (xs, rest) ↔
      ∃ x cs', member? cs = some (x, cs') ∧
        ((∃ ds ys, skipSpace cs' = ',' :: ds ∧ members? member? closing n ds = some (ys, rest) ∧
          xs = x :: ys) ∨
        (closing ≠ ',' ∧ skipSpace cs' = closing :: rest ∧ xs = [x])) := by
  simp only [members?, Option.bind_eq_bind, Option.bind_eq_some_iff, Prod.exists]
  refine exists_congr fun x => exists_congr fun cs' => and_congr_right fun _ => ?_
  cases skipSpace cs' with
  | nil => simp
  | cons c ds =>
    by_cases hc : c = ','
    · subst hc
      simp only [Option.map_eq_some_iff, Prod.mk.injEq, Prod.exists, List.cons.injEq, true_and]
      constructor
      · rintro ⟨ys, _, hy, rfl, rfl⟩
        exact Or.inl ⟨ds, ys, rfl, hy, rfl⟩
      · rintro (⟨_, ys, rfl, hy, rfl⟩ | ⟨hne, ⟨h, -⟩, -⟩)
        · exact ⟨ys, rest, hy, rfl, rfl⟩
        · exact absurd h.symm hne
    · by_cases hcl : c = closing
      · subst hcl
        simp [hc, eq_comm, and_comm]
      · simp [hc, hcl]

/-- Members are read up to the closing bracket, whatever follows it, with any greater bound as well. -/
theorem members?_append (hm : SettledBefore member?) {n m : Nat} {cs rest : List Char} {xs : List α}
    (h : members? member? closing n cs = some (xs, rest)) (hn : n ≤ m) (more : List Char) :
    members? member? closing m (cs ++ more) = some (xs, rest ++ more) := by
  induction n generalizing cs xs m with
  | zero => simp [members?] at h
  | succ n ih =>
    obtain ⟨m, rfl⟩ : ∃ k, m = k + 1 := ⟨m - 1, by omega⟩
    obtain ⟨x, cs', hx, h⟩ := members?_succ_eq_some.1 h
    have hs : skipSpace cs' ≠ [] := by
      rcases h with ⟨ds, -, hs, -⟩ | ⟨-, hs, -⟩ <;> simp [hs]
    have hne : cs' ≠ [] := by
      rintro rfl
      exact hs rfl
    refine members?_succ_eq_some.2 ⟨x, cs' ++ more, hm _ _ _ hx hne more, ?_⟩
    rw [skipSpace_append hs more]
    rcases h with ⟨ds, ys, hd, hy, rfl⟩ | ⟨hc, hd, rfl⟩
    · exact Or.inl ⟨ds ++ more, ys, by rw [hd, List.cons_append], ih hy (by omega), rfl⟩
    · exact Or.inr ⟨hc, by rw [hd, List.cons_append], rfl⟩

theorem settled_bracketed? (hm : SettledBefore member?) : Settled (bracketed? member? closing) := by
  intro cs xs rest h more
  simp only [bracketed?] at h ⊢
  cases hc : skipSpace cs with
  | nil => simp [hc] at h
  | cons c ds =>
    rw [skipSpace_append (by simp [hc]) more]
    simp only [hc, List.cons_append] at h ⊢
    split at h
    · next hcl =>
      cases h
      simp [hcl]
    · next hcl =>
      rw [if_neg hcl]
      exact members?_append hm h (by simp) more

theorem field_eq_some {value? : List Char → Option (α × List Char)} {cs rest : List Char}
    {key : String} {v : α} : field value? cs = some ((key, v), rest) ↔
      ∃ cs₁ cs₂, string? (skipSpace cs) = some (key, cs₁) ∧ skipSpace cs₁ = ':' :: cs₂ ∧
        value? cs₂ = some (v, rest) := by
  simp only [field, Option.bind_eq_bind, Option.bind_eq_some_iff, Prod.exists]
  constructor
  · rintro ⟨key', cs₁, hk, h⟩
    split at h
    · next cs₂ hs =>
      obtain ⟨⟨v', rest'⟩, hv, he⟩ := Option.map_eq_some_iff.1 h
      cases he
      exact ⟨cs₁, cs₂, hk, hs, hv⟩
    · simp at h
  · rintro ⟨cs₁, cs₂, hk, hs, hv⟩
    exact ⟨key, cs₁, hk, by simp [hs, hv]⟩

theorem settled_field {value? : List Char → Option (α × List Char)} (hv : SettledBefore value?) :
    SettledBefore (field value?) := by
  rintro cs ⟨key, v⟩ rest h hr more
  obtain ⟨cs₁, cs₂, hk, hs, h⟩ := field_eq_some.1 h
  have hne : skipSpace cs ≠ [] := by
    intro hn
    simp [hn, string?] at hk
  refine field_eq_some.2 ⟨cs₁ ++ more, cs₂ ++ more, ?_, ?_, hv _ _ _ h hr more⟩
  · rw [skipSpace_append hne more]
    exact settled_string? _ _ _ hk more
  · rw [skipSpace_append (by simp [hs]) more, hs, List.cons_append]

/-! ### Values -/

theorem skipSpace_skipSpace (cs : List Char) : skipSpace (skipSpace cs) = skipSpace cs :=
  List.dropWhile_idempotent _ cs

theorem value?_skipSpace (d : Nat) (cs : List Char) : value? d (skipSpace cs) = value? d cs := by
  rw [value?.eq_def, value?.eq_def, skipSpace_skipSpace]

theorem numeral?_cons {negative : Bool} {cs rest : List Char} {n : Numeral}
    (h : numeral? negative cs = some (n, rest)) : ∃ c ds, cs = c :: ds ∧ c.isDigit = true := by
  simp only [numeral?, Option.bind_eq_bind, Option.bind_eq_some_iff, Prod.exists] at h
  obtain ⟨w, cs₁, hw, -⟩ := h
  cases cs with
  | nil => simp [whole?, digits, List.span, List.span.loop] at hw
  | cons c ds =>
    refine ⟨c, ds, rfl, ?_⟩
    by_contra hc
    have hd : digits (c :: ds) = ([], c :: ds) := by
      simp [digits, List.span_eq_takeWhile_dropWhile, hc]
    simp [whole?, hd] at hw

theorem number?_cons {cs rest : List Char} {v : Json} (h : number? cs = some (v, rest)) :
    ∃ c ds, cs = c :: ds ∧ (c.isDigit = true ∨ c = '-') := by
  unfold number? at h
  split at h
  · exact ⟨'-', _, rfl, Or.inr rfl⟩
  · simp only [Option.bind_eq_bind, Option.bind_eq_some_iff, Prod.exists] at h
    obtain ⟨n, rest', hn, -⟩ := h
    obtain ⟨c, ds, rfl, hc⟩ := numeral?_cons hn
    exact ⟨c, ds, rfl, Or.inl hc⟩

theorem value?_string (d : Nat) (cs : List Char) :
    value? d ('"' :: cs) = (string? ('"' :: cs)).map fun (s, rest) => (.string s, rest) := by
  rw [value?.eq_def, skipSpace_cons (by decide)]
  rfl

theorem value?_array (d : Nat) (cs : List Char) :
    value? (d + 1) ('[' :: cs) =
      (bracketed? (value? d) ']' cs).map fun (xs, rest) => (.array xs, rest) := by
  rw [value?.eq_def, skipSpace_cons (by decide)]
  rfl

theorem value?_object (d : Nat) (cs : List Char) :
    value? (d + 1) ('\x7b' :: cs) =
      (bracketed? (field (value? d)) '\x7d' cs).map fun (fs, rest) => (ofFields fs, rest) := by
  rw [value?.eq_def, skipSpace_cons (by decide)]
  rfl

theorem value?_append_of_skipSpace {d : Nat} {c : Char} {cs ds : List Char} (hs : skipSpace cs = c :: ds)
    (more : List Char) : value? d (cs ++ more) = value? d (c :: (ds ++ more)) := by
  rw [← value?_skipSpace, skipSpace_append (by simp [hs]) more, hs, List.cons_append]

theorem settled_value? (d : Nat) : SettledBefore (value? d) := by
  induction d using Nat.strongRecOn with
  | ind d ih =>
    intro cs v rest h hr more
    rw [value?.eq_def] at h
    split at h
    · next hs =>
      cases h
      rw [value?_append_of_skipSpace hs, value?.eq_def, skipSpace_cons (by decide)]
      rfl
    · next hs =>
      cases h
      rw [value?_append_of_skipSpace hs, value?.eq_def, skipSpace_cons (by decide)]
      rfl
    · next hs =>
      cases h
      rw [value?_append_of_skipSpace hs, value?.eq_def, skipSpace_cons (by decide)]
      rfl
    · next hs =>
      rw [value?_append_of_skipSpace hs, value?_string]
      exact settled_string?.map Json.string _ _ _ h more
    · next hs =>
      rw [value?_append_of_skipSpace hs]
      cases d with
      | zero => simp at h
      | succ d =>
        rw [value?_array]
        exact (settled_bracketed? (ih d (by omega))).map Json.array _ _ _ h more
    · next hs =>
      rw [value?_append_of_skipSpace hs]
      cases d with
      | zero => simp at h
      | succ d =>
        rw [value?_object]
        exact (settled_bracketed? (settled_field (ih d (by omega)))).map ofFields _ _ _ h more
    · obtain ⟨c, ds, hs, hc⟩ := number?_cons h
      rw [hs] at h
      rw [value?_append_of_skipSpace hs, value?_of_numeral hc]
      exact settled_number? _ _ _ h hr more

theorem value?_append_of_object {d : Nat} {cs ds rest : List Char} {v : Json}
    (hs : skipSpace cs = '\x7b' :: ds) (h : value? d cs = some (v, rest)) (more : List Char) :
    value? d (cs ++ more) = some (v, rest ++ more) := by
  rw [← value?_skipSpace, hs] at h
  rw [value?_append_of_skipSpace hs]
  cases d with
  | zero => simp [value?.eq_def, skipSpace_cons (show isSpace '\x7b' = false by decide)] at h
  | succ d =>
    rw [value?_object] at h ⊢
    exact (settled_bracketed? (settled_field (settled_value? d))).map ofFields _ _ _ h more

/-- The text of an object cannot be read when its end is missing. -/
theorem parse?_of_cut {fs : List (String × Json)} (h : Plain maxDepth (.object fs)) {text : String}
    {more : List Char} (hm : more ≠ []) (ht : text.toList ++ more = write 0 (.object fs)) :
    parse? text = none := by
  have hw := value?_write h 0 (stops_nil inNumeral)
  rw [List.append_nil, ← ht] at hw
  obtain ⟨cs, hcs⟩ : ∃ cs, write 0 (.object fs) = '\x7b' :: cs := by
    cases fs <;> exact ⟨_, rfl⟩
  cases hv : value? maxDepth text.toList with
  | none => simp [parse?, hv]
  | some r =>
    obtain ⟨v, rest⟩ := r
    have hc : ∃ ds, skipSpace text.toList = '\x7b' :: ds := by
      cases hl : text.toList with
      | nil => simp [hl, value?.eq_def, skipSpace, number?_nil] at hv
      | cons c ds =>
        rw [hl, hcs, List.cons_append, List.cons.injEq] at ht
        exact ⟨ds, by rw [ht.1, skipSpace_cons (by decide)]⟩
    obtain ⟨ds, hs⟩ := hc
    rw [value?_append_of_object hs hv more, Option.some.injEq, Prod.mk.injEq] at hw
    exact absurd (List.append_eq_nil_iff.1 hw.2).2 hm

end StageGate.Json
