import StageGate.Disk.Basic

/-!
Facts about disks. Walks see only folders, so what is put at a place that is no folder does not change
them; hence a file that was written is found under the same path, with what was written.
-/

set_option autoImplicit false

namespace StageGate.Disk

theorem item?_of_step {d : Disk} {place next : Place} {part : String}
    (h : d.step place part = .ok next) : d.item? place = some .folder := by
  unfold step at h
  split at h <;> simp_all

theorem step_put {d : Disk} {place q next : Place} {part : String} {item : Item}
    (hq : q ≠ place) (h : d.step q part = .ok next) :
    (d.put place item).step q part = .ok next := by
  have hf := item?_of_step h
  simp only [step, hf, item?_put_of_ne d item hq] at h ⊢
  split at h
  · simp [*]
  · split at h
    · simp_all
    · simp_all
      by_cases hn : q ++ [part] = place
      · subst hn
        simp [item?]
        split at h <;> simp_all
      · rw [item?_put_of_ne d item hn]
        exact h

theorem walk_cons (d : Disk) (q : Place) (part : String) (parts : List String) :
    d.walk q (part :: parts) = (d.step q part).bind (d.walk · parts) := rfl

theorem walk_append (d : Disk) (q : Place) (as bs : List String) :
    d.walk q (as ++ bs) = (d.walk q as).bind (d.walk · bs) := by
  induction as generalizing q with
  | nil => rfl
  | cons a as ih =>
    simp only [List.cons_append, walk_cons]
    cases d.step q a with
    | error e => rfl
    | ok next => exact ih next

theorem walk_put {d : Disk} {place q last : Place} {parts : List String} {item : Item}
    (hp : d.item? place ≠ some .folder) (h : d.walk q parts = .ok last) :
    (d.put place item).walk q parts = .ok last := by
  induction parts generalizing q with
  | nil => exact h
  | cons part parts ih =>
    rw [walk_cons] at h ⊢
    cases hs : d.step q part with
    | error e => simp [hs, Except.bind] at h
    | ok next =>
      have hq : q ≠ place := fun e => hp (e ▸ item?_of_step hs)
      rw [step_put hq hs]
      exact ih (by simpa [hs, Except.bind] using h)

theorem lastPart_eq_some {p : Path} {before : List String} {last : String}
    (h : lastPart p = some (before, last, false)) : p.steps = before ++ [last] ∧ last ≠ "" := by
  simp only [lastPart] at h
  split at h
  · simp at h
  · next l bs hr =>
    simp only [Option.some.injEq, Prod.mk.injEq] at h
    obtain ⟨rfl, rfl, hs⟩ := h
    have hlen : (p.steps.reverse.dropWhile (· = "")).length = p.steps.reverse.length := by
      simpa using hs
    have hsuf := List.dropWhile_suffix (l := p.steps.reverse) (fun s => decide (s = ""))
    have heq := hsuf.eq_of_length hlen
    constructor
    · have := congrArg List.reverse (heq.symm.trans hr)
      simpa using this
    · have := List.head_dropWhile_not (l := p.steps.reverse) (fun s => decide (s = "")) (by rw [hr]; simp)
      simpa [hr] using this

theorem newPlace_eq_some {d : Disk} {start place : Place} {before : List String} {last : String}
    (h : d.newPlace start before last = .ok (some place)) :
    ∃ folder, d.walk start before = .ok folder ∧ d.item? folder = some .folder ∧
      last ≠ "." ∧ last ≠ ".." ∧ place = folder ++ [last] := by
  simp only [newPlace, bind, Except.bind] at h
  split at h
  · simp at h
  · next folder hw =>
    split at h
    · next hf =>
      split at h
      · simp [pure, Except.pure] at h
      · next hd =>
        simp only [pure, Except.pure, Except.ok.injEq, Option.some.injEq] at h
        simp only [not_or] at hd
        exact ⟨folder, hw, hf, hd.1, hd.2, h.symm⟩
    · simp [throw, throwThe, MonadExceptOf.throw] at h
    · simp [throw, throwThe, MonadExceptOf.throw] at h

/-- What `write` changes: a file stands at the last name of the path, in a folder that was there. -/
theorem write_eq_ok {d made : Disk} {p : Path} {content : ByteArray}
    (h : d.write p content = .ok made) :
    ∃ before last folder, p.text ≠ "" ∧ p.steps = before ++ [last] ∧
      last ≠ "" ∧ last ≠ "." ∧ last ≠ ".." ∧ d.walk (d.start p) before = .ok folder ∧
      d.item? folder = some .folder ∧ d.item? (folder ++ [last]) ≠ some .folder ∧
      made = d.put (folder ++ [last]) (.file content) := by
  simp only [write, bind, Except.bind, throw, throwThe, MonadExceptOf.throw, pure, Except.pure] at h
  split at h
  · simp at h
  · next ht =>
    split at h
    · simp at h
    · next before last slash hl =>
      split at h
      · simp at h
      · next place? hn =>
        split at h
        · simp at h
        · next place =>
          split at h
          · simp at h
          · next hs =>
            simp only [not_or, Bool.not_eq_true] at hs
            obtain ⟨folder, hw, hf, h1, h2, rfl⟩ := newPlace_eq_some hn
            obtain ⟨rfl, hd⟩ := hs
            obtain ⟨hp, hne⟩ := lastPart_eq_some hl
            have ht' : p.text ≠ "" := fun e => by simp [e] at ht
            exact ⟨before, last, folder, ht', hp, hne, h1, h2, hw, hf, hd, by simpa using h.symm⟩

theorem find_of_write {d made : Disk} {p : Path} {content : ByteArray}
    (h : d.write p content = .ok made) : made.find p = .ok (.file content) := by
  obtain ⟨before, last, folder, ht, hp, h0, h1, h2, hw, hf, hd, rfl⟩ := write_eq_ok h
  have hne : folder ≠ folder ++ [last] := by simp
  have hwalk : (d.put (folder ++ [last]) (.file content)).walk (d.start p) p.steps =
      .ok (folder ++ [last]) := by
    rw [hp, walk_append, walk_put hd hw]
    simp [Except.bind, walk, step, item?_put_of_ne d _ hne, hf, h0, h1, h2, item?_put_self]
  have hs : (d.put (folder ++ [last]) (.file content)).start p = d.start p := rfl
  simp [find, ht, hs, hwalk, bind, Except.bind, pure, Except.pure, item?_put_self]

end StageGate.Disk
