import StageGate.Proofs.Disk.Folder

/-!
Making folders. A folder that is there already is left as it is, and a folder with all those above it is
made exactly when the path enters it afterwards: a path can enter a folder only when all the folders
above it can be entered, so what stopped one of them stops the path as well.
-/

set_option autoImplicit false

namespace StageGate

/-! ### The folders above a path -/

namespace Path

theorem mem_names {p : Path} {n : String} (h : n ∈ p.names) :
    n ≠ "" ∧ n ≠ "." ∧ '/' ∉ n.toList := by
  simp only [names, steps, List.mem_filter, List.mem_map, decide_eq_true_eq] at h
  obtain ⟨⟨cs, hcs, rfl⟩, hne⟩ := h
  refine ⟨hne.1, hne.2, ?_⟩
  simpa using Text.notMem_of_mem_split hcs

theorem split_intercalate {ns : List String} (hne : ns ≠ []) (h : ∀ n ∈ ns, '/' ∉ n.toList) :
    (Text.split '/' ("/".intercalate ns).toList).map String.ofList = ns := by
  have hpieces : ∀ p ∈ ns.map String.toList, '/' ∉ p := List.forall_mem_map.2 h
  have hslash : "/".toList = ['/'] := rfl
  rw [String.toList_intercalate, hslash, Text.split_intercalate (by simpa using hne) hpieces,
    List.map_map]
  simp

theorem isAbsolute_ofNames {ns : List String} (hne : ns ≠ []) (h : ∀ n ∈ ns, n ≠ "" ∧ '/' ∉ n.toList)
    (isAbsolute : Bool) : (ofNames isAbsolute ns).isAbsolute = isAbsolute := by
  cases isAbsolute with
  | true => simp [ofNames, Path.isAbsolute]
  | false =>
    cases ns with
    | nil => exact absurd rfl hne
    | cons n ns =>
      obtain ⟨hn, hs⟩ := h n (by simp)
      cases hl : n.toList with
      | nil => simp_all
      | cons c cs =>
        have hc : c ≠ '/' := fun he => hs (by simp [hl, he])
        cases ns with
        | nil => simp [ofNames, Path.isAbsolute, hl, hc]
        | cons m ms =>
          simp [ofNames, Path.isAbsolute, hl, hc]

theorem text_ofNames_ne {ns : List String} (hne : ns ≠ []) (h : ∀ n ∈ ns, n ≠ "" ∧ '/' ∉ n.toList)
    (isAbsolute : Bool) : (ofNames isAbsolute ns).text ≠ "" := by
  intro he
  have : (ofNames isAbsolute ns).steps = [""] := by simp [steps, he, Text.split]
  cases isAbsolute with
  | true => simp [ofNames] at he
  | false =>
    have hs := split_intercalate hne fun n hn => (h n hn).2
    simp only [ofNames, Bool.false_eq_true, if_false] at he
    rw [he] at hs
    simp only [String.toList_empty, Text.split, List.map_cons, List.map_nil] at hs
    exact (h "" (by simp [← hs])).1 rfl

theorem steps_ofNames {ns : List String} (hne : ns ≠ []) (h : ∀ n ∈ ns, '/' ∉ n.toList)
    (isAbsolute : Bool) :
    (ofNames isAbsolute ns).steps = if isAbsolute then "" :: ns else ns := by
  have hs := split_intercalate hne h
  cases isAbsolute with
  | true => simpa [ofNames, steps, Text.split] using hs
  | false => simpa [ofNames, steps] using hs

end Path

namespace Disk

open StageGate.Path

theorem walk_names {d : Disk} {q r : Place} {parts : List String} (h : d.walk q parts = .ok r) :
    d.walk q (parts.filter fun s => s ≠ "" ∧ s ≠ ".") = .ok r := by
  induction parts generalizing q with
  | nil => exact h
  | cons s parts ih =>
    obtain ⟨m, hs, hw⟩ := walk_eq_ok_cons.1 h
    by_cases hb : s = "" ∨ s = "."
    · have hm : q = m := by simpa [step, item?_of_step hs, hb] using hs
      subst hm
      rw [List.filter_cons_of_neg (by rcases hb with rfl | rfl <;> simp)]
      exact ih hw
    · simp only [not_or] at hb
      rw [List.filter_cons_of_pos (by simpa using hb)]
      exact walk_eq_ok_cons.2 ⟨m, hs, ih hw⟩

theorem walk_take {d : Disk} {q r : Place} {parts : List String} (h : d.walk q parts = .ok r)
    (hr : d.item? r = some .folder) (k : Nat) :
    ∃ m, d.walk q (parts.take k) = .ok m ∧ d.item? m = some .folder := by
  rw [← List.take_append_drop k parts] at h
  obtain ⟨m, hm, hw⟩ := walk_eq_ok_append.1 h
  refine ⟨m, hm, ?_⟩
  cases hd : parts.drop k with
  | nil =>
    rw [hd] at hw
    cases hw
    exact hr
  | cons s rest =>
    rw [hd] at hw
    obtain ⟨next, hs, -⟩ := walk_eq_ok_cons.1 hw
    exact item?_of_step hs

theorem isFolder_ofNames {d : Disk} {ns : List String} (hne : ns ≠ [])
    (h : ∀ n ∈ ns, n ≠ "" ∧ '/' ∉ n.toList) (isAbsolute : Bool) :
    d.isFolder (ofNames isAbsolute ns) = true ↔
      ∃ q, d.walk (if isAbsolute then [] else d.here) ns = .ok q ∧ d.item? q = some .folder := by
  have htop : d.step [] "" = .ok [] := step_blank_eq_ok.2 ⟨rfl, rfl⟩
  simp only [isFolder_iff, ne_eq, text_ofNames_ne hne h, not_false_eq_true, true_and, enter_eq_ok, start,
    isAbsolute_ofNames hne h, steps_ofNames hne fun n hn => (h n hn).2]
  cases isAbsolute with
  | true => simp [walk_cons, htop, Except.bind]
  | false => simp

theorem isFolder_names {d : Disk} {p : Path} (h : d.isFolder p = true) :
    ∃ q, d.walk (d.start p) p.names = .ok q ∧ d.item? q = some .folder := by
  obtain ⟨-, q, hq⟩ := isFolder_iff.1 h
  obtain ⟨hw, hi⟩ := enter_eq_ok.1 hq
  exact ⟨q, walk_names hw, hi⟩

/-- A path is a folder only where the folders above it are, and each of these only where those above
it are. -/
theorem pairwise_parents (p : Path) :
    (p :: p.parents).Pairwise fun a b => ∀ d : Disk, d.isFolder a = true → d.isFolder b = true := by
  have hgood (k : Nat) : ∀ n ∈ p.names.take k, n ≠ "" ∧ '/' ∉ n.toList := fun n hn =>
    let h := mem_names (List.mem_of_mem_take hn)
    ⟨h.1, h.2.2⟩
  have hne {k : Nat} (h0 : 0 < k) (hk : k < p.names.length) : p.names.take k ≠ [] := by
    intro he
    rcases List.take_eq_nil_iff.1 he with rfl | he
    · omega
    · simp [he] at hk
  refine List.pairwise_cons.2 ⟨?_, ?_⟩
  · intro a ha d hd
    obtain ⟨i, hi, rfl⟩ := List.mem_map.1 ha
    rw [List.mem_range] at hi
    obtain ⟨q, hq, hf⟩ := isFolder_names hd
    exact (isFolder_ofNames (hne (by omega) (by omega)) (hgood _) _).2 (walk_take hq hf _)
  · refine List.pairwise_map.2 (List.pairwise_lt_range.imp_of_mem ?_)
    intro i j hi hj hij d hd
    rw [List.mem_range] at hi hj
    obtain ⟨q, hq, hf⟩ := (isFolder_ofNames (hne (by omega) (by omega)) (hgood _) _).1 hd
    refine (isFolder_ofNames (hne (by omega) (by omega)) (hgood _) _).2 ?_
    have := walk_take hq hf (p.names.length - 1 - j)
    rwa [List.take_take, Nat.min_eq_left (by omega)] at this

/-! ### What making a folder leaves behind -/

theorem walk_blanks {d : Disk} {q : Place} (hq : d.item? q = some .folder) {blanks : List String}
    (hb : ∀ s ∈ blanks, s = "") : d.walk q blanks = .ok q := by
  induction blanks with
  | nil => rfl
  | cons s blanks ih =>
    obtain rfl := hb s (by simp)
    exact walk_eq_ok_cons.2 ⟨q, step_blank_eq_ok.2 ⟨hq, rfl⟩, ih fun s hs => hb s (by simp [hs])⟩

theorem steps_of_lastPart {p : Path} {before : List String} {last : String} {slash : Bool}
    (h : lastPart p = some (before, last, slash)) :
    last ≠ "" ∧ ∃ blanks, p.steps = before ++ last :: blanks ∧ ∀ s ∈ blanks, s = "" := by
  simp only [lastPart] at h
  split at h
  · simp at h
  · next l bs hr =>
    simp only [Option.some.injEq, Prod.mk.injEq] at h
    obtain ⟨rfl, rfl, -⟩ := h
    constructor
    · have := List.head_dropWhile_not (l := p.steps.reverse) (fun s => decide (s = "")) (by rw [hr]; simp)
      simpa [hr] using this
    · refine ⟨(p.steps.reverse.takeWhile (· = "")).reverse, ?_, ?_⟩
      · have h := List.takeWhile_append_dropWhile (p := fun s => decide (s = "")) (l := p.steps.reverse)
        rw [hr] at h
        have := congrArg List.reverse h
        simpa using this.symm
      · intro s hs
        have := List.all_takeWhile (p := fun s => decide (s = "")) (l := p.steps.reverse)
        simp only [List.all_eq_true, decide_eq_true_eq] at this
        exact this s (by simpa using hs)

theorem makeFolder_eq_ok {d made : Disk} {p : Path} (h : d.makeFolder p = .ok made) :
    ∃ before last blanks folder, p.text ≠ "" ∧ p.steps = before ++ last :: blanks ∧
      (∀ s ∈ blanks, s = "") ∧ last ≠ "" ∧ last ≠ "." ∧ last ≠ ".." ∧
      d.walk (d.start p) before = .ok folder ∧ d.item? folder = some .folder ∧
      d.item? (folder ++ [last]) = none ∧ made = d.put (folder ++ [last]) .folder := by
  simp only [makeFolder, bind, Except.bind, throw, throwThe, MonadExceptOf.throw, pure, Except.pure] at h
  split at h
  · simp at h
  · next ht =>
    split at h
    · simp at h
    · next before last slash hl =>
      obtain ⟨hne, blanks, hs, hb⟩ := steps_of_lastPart hl
      split at h
      · simp at h
      · next place? hn =>
        split at h
        · simp at h
        · next place =>
          obtain ⟨folder, hw, hf, h1, h2, rfl⟩ := newPlace_eq_some hn
          split at h
          · simp at h
          · next hi =>
            cases h
            exact ⟨before, last, blanks, folder, fun he => by simp [he] at ht, hs, hb, hne, h1, h2, hw, hf,
              by simpa using hi, rfl⟩

theorem isFolder_of_makeFolder {d made : Disk} {p : Path} (h : d.makeFolder p = .ok made) :
    made.isFolder p = true := by
  obtain ⟨before, last, blanks, folder, ht, hs, hb, hne, h1, h2, hw, hf, hi, rfl⟩ := makeFolder_eq_ok h
  have hself : (d.put (folder ++ [last]) .folder).item? (folder ++ [last]) = some .folder :=
    item?_put_self d _ (by simp)
  have hfolder : (d.put (folder ++ [last]) .folder).item? folder = d.item? folder :=
    item?_put_of_ne d _ (by simp)
  refine isFolder_iff.2 ⟨ht, folder ++ [last], enter_eq_ok.2 ⟨?_, hself⟩⟩
  rw [hs]
  refine walk_eq_ok_append.2 ⟨folder, walk_put (by simp [hi]) hw, ?_⟩
  refine walk_eq_ok_cons.2 ⟨folder ++ [last], ?_, walk_blanks hself hb⟩
  simp [step, hfolder, hf, hne, h1, h2, hself]

theorem makeFolder_of_isFolder {d : Disk} {p : Path} (h : d.isFolder p = true) :
    d.makeFolder p = .error .alreadyExists := by
  obtain ⟨ht, q, hq⟩ := isFolder_iff.1 h
  obtain ⟨hw, hi⟩ := enter_eq_ok.1 hq
  rw [makeFolder, if_neg ht]
  cases hl : lastPart p with
  | none => rfl
  | some parts =>
    obtain ⟨before, last, slash⟩ := parts
    obtain ⟨hne, blanks, hs, hb⟩ := steps_of_lastPart hl
    rw [hs, walk_eq_ok_append] at hw
    obtain ⟨folder, hwb, hw⟩ := hw
    obtain ⟨next, hstep, hw⟩ := walk_eq_ok_cons.1 hw
    have hf := item?_of_step hstep
    have hn : d.newPlace (d.start p) before last =
        .ok (if last = "." ∨ last = ".." then none else some (folder ++ [last])) := by
      simp [newPlace, hwb, hf, bind, Except.bind, pure, Except.pure]
    simp only [hn, bind, Except.bind]
    by_cases hd : last = "." ∨ last = ".."
    · rw [if_pos hd]
      rfl
    · rw [if_neg hd]
      have hsome : (d.item? (folder ++ [last])).isSome := by
        simp only [not_or] at hd
        simp only [step, hf, hne, hd.1, hd.2, or_self, if_false] at hstep
        split at hstep
        · assumption
        · simp at hstep
      simp [hsome, throw, throwThe, MonadExceptOf.throw]

theorem makeFirst_of_isFolder {d : Disk} {p : Path} (h : d.isFolder p = true) (above : List Path) :
    d.makeFirst (p :: above) = (.ok (), d) := by
  simp [makeFirst, makeFolder_of_isFolder h, h]

/-- The first of some folders is there afterwards, or it could not be made and is not there, or the ones
that it needs could not be made. -/
theorem makeFirst_cases {d made : Disk} {p : Path} {above : List Path} {r : Except DiskFault Unit}
    (h : d.makeFirst (p :: above) = (r, made)) :
    (r = .ok () ∧ made.isFolder p = true) ∨
      (∃ e, r = .error e ∧ (made.isFolder p = false ∨ d.makeFirst above = (.error e, made))) := by
  have hcheck {e : DiskFault} (he : (if made.isFolder p then .ok () else .error e) = r) :
      (r = .ok () ∧ made.isFolder p = true) ∨
        (∃ e, r = .error e ∧ (made.isFolder p = false ∨ d.makeFirst above = (.error e, made))) := by
    subst he
    by_cases hf : made.isFolder p = true
    · exact Or.inl ⟨if_pos hf, hf⟩
    · exact Or.inr ⟨e, if_neg hf, Or.inl (by simpa using hf)⟩
  simp only [makeFirst] at h
  split at h
  · next hm =>
    cases h
    exact Or.inl ⟨rfl, isFolder_of_makeFolder hm⟩
  · split at h
    · next e above' ha =>
      cases h
      exact Or.inr ⟨e, rfl, Or.inr ha⟩
    · split at h
      · next hm =>
        cases h
        exact Or.inl ⟨rfl, isFolder_of_makeFolder hm⟩
      · simp only [Prod.mk.injEq] at h
        obtain ⟨hr, rfl⟩ := h
        exact hcheck hr
  · simp only [Prod.mk.injEq] at h
    obtain ⟨hr, rfl⟩ := h
    exact hcheck hr

theorem isFolder_of_makeFirst {d made : Disk} {p : Path} {above : List Path}
    (h : d.makeFirst (p :: above) = (.ok (), made)) : made.isFolder p = true := by
  rcases makeFirst_cases h with ⟨-, hp⟩ | ⟨e, he, -⟩
  · exact hp
  · cases he

/-- When the first of some folders could not be made it is not there, provided that each of them can
only be where the next one is. -/
theorem isFolder_of_makeFirst_error {ps : List Path} {d made : Disk} {e : DiskFault}
    (hps : ps.Pairwise fun a b => ∀ d : Disk, d.isFolder a = true → d.isFolder b = true)
    (h : d.makeFirst ps = (.error e, made)) : ∀ p ∈ ps.head?, made.isFolder p = false := by
  induction ps with
  | nil => simp
  | cons p above ih =>
    rintro _ ⟨⟩
    rcases makeFirst_cases h with ⟨he, -⟩ | ⟨_, ⟨⟩, hp | ha⟩
    · cases he
    · exact hp
    · cases above with
      | nil => simp [makeFirst] at ha
      | cons b rest =>
        have hb := ih (List.pairwise_cons.1 hps).2 ha b (by simp)
        have hab := (List.pairwise_cons.1 hps).1 b (by simp) made
        cases hp : made.isFolder p with
        | false => rfl
        | true => simp [hab hp] at hb

theorem makeFolders_of_enter {d : Disk} {p : Path} {q : Place} (h : d.enter p = .ok q) :
    d.makeFolders p = (.ok (), d) := by
  rw [makeFolders]
  split
  · rfl
  · next ht => exact makeFirst_of_isFolder (isFolder_iff.2 ⟨ht, q, h⟩) _

theorem enter_of_makeFolders {d made : Disk} {p : Path} (ht : p.text ≠ "")
    (h : d.makeFolders p = (.ok (), made)) : ∃ q, made.enter p = .ok q := by
  rw [makeFolders, if_neg ht] at h
  exact (isFolder_iff.1 (isFolder_of_makeFirst h)).2

theorem enter_of_makeFolders_error {d made : Disk} {p : Path} {e : DiskFault} {q : Place}
    (h : d.makeFolders p = (.error e, made)) : made.enter p ≠ .ok q := by
  rw [makeFolders] at h
  split at h
  · simp at h
  · next ht =>
    intro hq
    have hp := isFolder_of_makeFirst_error (pairwise_parents p) h p rfl
    simp [isFolder_iff.2 ⟨ht, q, hq⟩] at hp

end Disk

end StageGate
