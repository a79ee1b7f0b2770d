import StageGate.Disk.Lemmas
import StageGate.Proofs.Text.Segments

/-!
Folders on a disk. A path enters a folder when all its parts lead through folders; what stands under a
plain name there is found, and written, at one place below.
-/

set_option autoImplicit false

namespace StageGate

/-! ### Names and paths -/

/-- A part of a path that stands for an item of its own. -/
structure IsName (n : String) : Prop where
  ne_empty : n ≠ ""
  ne_dot : n ≠ "."
  ne_up : n ≠ ".."
  no_slash : '/' ∉ n.toList

namespace IsName

theorem isAbsolute_eq_false {n : String} (h : IsName n) : (Path.mk n).isAbsolute = false := by
  cases hn : n.toList with
  | nil => simp [Path.isAbsolute, hn]
  | cons c cs =>
    have hc : c ≠ '/' := fun he => h.no_slash (by simp [hn, he])
    simp [Path.isAbsolute, hn, hc]

end IsName

namespace Path

theorem join_eq {n : String} (h : IsName n) (p : Path) :
    p.join n = if p.text = "" then ⟨n⟩
      else if p.text.toList.getLast? = some '/' then ⟨p.text ++ n⟩ else ⟨p.text ++ "/" ++ n⟩ := by
  simp [join, h.isAbsolute_eq_false]

theorem steps_join {n : String} (h : IsName n) (p : Path) :
    ∃ parts, (p.join n).steps = parts ++ [n] ∧ (p.steps = parts ∨ p.steps = parts ++ [""]) := by
  have hn : Text.split '/' n.toList = [n.toList] := Text.split_of_notMem h.no_slash
  rw [join_eq h]
  split
  · next ht =>
    refine ⟨[], ?_, Or.inr ?_⟩
    · simp [steps, hn]
    · simp [steps, ht, Text.split]
  · split
    · next hl =>
      obtain ⟨cs, hcs⟩ := List.getLast?_eq_some_iff.1 hl
      refine ⟨(Text.split '/' cs).map String.ofList, ?_, Or.inr ?_⟩
      · simp [steps, hcs, Text.split_append, hn]
      · simp [steps, hcs, Text.split_append, Text.split]
    · refine ⟨p.steps, ?_, Or.inl rfl⟩
      have hs : (p.text ++ "/" ++ n).toList = p.text.toList ++ '/' :: n.toList := by simp
      rw [steps, hs, Text.split_append, hn]
      simp [steps]

theorem isAbsolute_join {n : String} (h : IsName n) (p : Path) :
    (p.join n).isAbsolute = p.isAbsolute := by
  rw [join_eq h]
  by_cases ht : p.text = ""
  · rw [if_pos ht, h.isAbsolute_eq_false]
    simp [isAbsolute, ht]
  · rw [if_neg ht]
    have hc : p.text.toList ≠ [] := by simpa using ht
    cases hl : p.text.toList with
    | nil => exact absurd hl hc
    | cons c cs => split <;> simp [isAbsolute, hl]

theorem text_join_ne {n : String} (h : IsName n) (p : Path) : (p.join n).text ≠ "" := by
  rw [join_eq h]
  split
  · exact h.ne_empty
  · split <;> simp [h.ne_empty]

end Path

/-! ### Folders that a path enters -/

namespace Disk

theorem step_eq (d : Disk) (q : Place) (part : String) :
    d.step q part = (d.step q "").bind fun q =>
      if part = "" ∨ part = "." then .ok q
      else if part = ".." then .ok q.dropLast
      else if (d.item? (q ++ [part])).isSome then .ok (q ++ [part]) else .error .notFound := by
  cases hq : d.item? q with
  | none => simp [step, hq, Except.bind]
  | some i => cases i <;> simp [step, hq, Except.bind]

theorem step_name {n : String} (h : IsName n) (d : Disk) (q : Place) :
    d.step q n = (d.step q "").bind fun q =>
      if (d.item? (q ++ [n])).isSome then .ok (q ++ [n]) else .error .notFound := by
  rw [step_eq]
  simp [h.ne_empty, h.ne_dot, h.ne_up]

theorem step_blank_eq_ok {d : Disk} {q r : Place} :
    d.step q "" = .ok r ↔ d.item? q = some .folder ∧ r = q := by
  cases hq : d.item? q with
  | none => simp [step, hq]
  | some i =>
    cases i with
    | file c => simp [step, hq]
    | folder =>
      simp only [step, hq, true_or, if_true, Except.ok.injEq, true_and]
      exact eq_comm

theorem walk_eq_ok_append {d : Disk} {q r : Place} {as bs : List String} :
    d.walk q (as ++ bs) = .ok r ↔ ∃ m, d.walk q as = .ok m ∧ d.walk m bs = .ok r := by
  rw [walk_append]
  cases d.walk q as <;> simp [Except.bind]

theorem walk_eq_ok_cons {d : Disk} {q r : Place} {a : String} {as : List String} :
    d.walk q (a :: as) = .ok r ↔ ∃ m, d.step q a = .ok m ∧ d.walk m as = .ok r := by
  rw [walk_cons]
  cases d.step q a <;> simp [Except.bind]

/-- The folder to which a path leads. -/
def enter (d : Disk) (p : Path) : Except DiskFault Place := d.walk (d.start p) (p.steps ++ [""])

theorem enter_eq_ok {d : Disk} {p : Path} {q : Place} :
    d.enter p = .ok q ↔ d.walk (d.start p) p.steps = .ok q ∧ d.item? q = some .folder := by
  simp only [enter, walk_eq_ok_append, walk_eq_ok_cons, step_blank_eq_ok]
  constructor
  · rintro ⟨m, hm, _, ⟨hi, rfl⟩, hr⟩
    cases hr
    exact ⟨hm, hi⟩
  · rintro ⟨hw, hi⟩
    exact ⟨q, hw, q, ⟨hi, rfl⟩, rfl⟩

theorem isFolder_iff {d : Disk} {p : Path} :
    d.isFolder p = true ↔ p.text ≠ "" ∧ ∃ q, d.enter p = .ok q := by
  simp only [enter_eq_ok, isFolder, find]
  by_cases ht : p.text = ""
  · simp [ht, throw, throwThe, MonadExceptOf.throw, bind, Except.bind]
  · cases hw : d.walk (d.start p) p.steps with
    | error e => simp [ht, bind, Except.bind]
    | ok q =>
      cases hi : d.item? q with
      | none => simp [ht, hi, throw, throwThe, MonadExceptOf.throw, bind, Except.bind]
      | some i => cases i <;> simp [ht, hi, bind, Except.bind, pure, Except.pure]

theorem enter_of_steps {d : Disk} {p : Path} {parts : List String}
    (h : p.steps = parts ∨ p.steps = parts ++ [""]) :
    d.enter p = (d.walk (d.start p) parts).bind (d.step · "") := by
  have hone (q : Place) : d.walk q [""] = d.step q "" := by
    rw [walk_cons]
    cases d.step q "" <;> rfl
  rcases h with h | h
  · rw [enter, h, walk_append]
    simp [hone]
  · rw [enter, h, walk_append, walk_append]
    cases d.walk (d.start p) parts with
    | error e => rfl
    | ok q =>
      simp only [Except.bind, hone]
      cases hs : d.step q "" with
      | error e => rfl
      | ok r =>
        obtain ⟨hi, rfl⟩ := step_blank_eq_ok.1 hs
        exact hs

theorem find_join {n : String} (h : IsName n) (d : Disk) (p : Path) :
    d.find (p.join n) = (d.enter p).bind fun q =>
      match d.item? (q ++ [n]) with
      | some i => .ok i
      | none => .error .notFound := by
  obtain ⟨parts, hj, hp⟩ := Path.steps_join h p
  have hs : d.start (p.join n) = d.start p := by simp [start, Path.isAbsolute_join h]
  have hone (q : Place) : d.walk q [n] = d.step q n := by
    rw [walk_cons]
    cases d.step q n <;> rfl
  rw [find, if_neg (Path.text_join_ne h p), hs, hj, walk_append, enter_of_steps hp]
  cases d.walk (d.start p) parts with
  | error e => rfl
  | ok q =>
    simp only [Except.bind, bind, pure, Except.pure, hone]
    rw [step_name h]
    cases hb : d.step q "" with
    | error e => rfl
    | ok r =>
      cases hi : d.item? (r ++ [n]) <;> simp [Except.bind, hi]

theorem walk_join {n : String} (h : IsName n) {d : Disk} {p : Path} {q : Place}
    (hq : d.enter p = .ok q) (hi : (d.item? (q ++ [n])).isSome) :
    d.walk (d.start (p.join n)) (p.join n).steps = .ok (q ++ [n]) := by
  obtain ⟨parts, hj, hp⟩ := Path.steps_join h p
  have hs : d.start (p.join n) = d.start p := by simp [start, Path.isAbsolute_join h]
  rw [enter_of_steps hp] at hq
  rw [hs, hj, walk_eq_ok_append]
  cases hw : d.walk (d.start p) parts with
  | error e => simp [hw, Except.bind] at hq
  | ok r =>
    rw [hw] at hq
    obtain ⟨hr, rfl⟩ := step_blank_eq_ok.1 hq
    refine ⟨q, rfl, walk_eq_ok_cons.2 ⟨q ++ [n], ?_, rfl⟩⟩
    rw [step_name h, step_blank_eq_ok.2 ⟨hr, rfl⟩]
    exact if_pos hi

theorem lastPart_join {n : String} (h : IsName n) {p : Path} {parts : List String}
    (hj : (p.join n).steps = parts ++ [n]) : lastPart (p.join n) = some (parts, n, false) := by
  simp [lastPart, hj, h.ne_empty]

theorem newPlace_name {n : String} (h : IsName n) (d : Disk) (q : Place) (before : List String) :
    d.newPlace q before n =
      ((d.walk q before).bind (d.step · "")).map fun q => some (q ++ [n]) := by
  rw [newPlace]
  cases d.walk q before with
  | error e => rfl
  | ok r =>
    cases hi : d.item? r with
    | none => simp [step, hi, bind, Except.bind, Except.map, throw, throwThe, MonadExceptOf.throw]
    | some i =>
      cases i <;> simp [step, hi, h.ne_dot, h.ne_up, bind, Except.bind, Except.map, throw, throwThe,
        MonadExceptOf.throw, pure, Except.pure]

theorem write_join {n : String} (h : IsName n) (d : Disk) (p : Path) (content : ByteArray) :
    d.write (p.join n) content = (d.enter p).bind fun q =>
      if d.item? (q ++ [n]) = some .folder then .error .isFolder
      else .ok (d.put (q ++ [n]) (.file content)) := by
  obtain ⟨parts, hj, hp⟩ := Path.steps_join h p
  have hs : d.start (p.join n) = d.start p := by simp [start, Path.isAbsolute_join h]
  rw [write, if_neg (Path.text_join_ne h p), lastPart_join h hj, enter_of_steps hp]
  simp only [hs, newPlace_name h]
  cases (d.walk (d.start p) parts).bind (d.step · "") with
  | error e => rfl
  | ok q => simp [bind, Except.bind, Except.map, pure, Except.pure, throw, throwThe, MonadExceptOf.throw]

theorem makeFolder_join {n : String} (h : IsName n) (d : Disk) (p : Path) :
    d.makeFolder (p.join n) = (d.enter p).bind fun q =>
      if (d.item? (q ++ [n])).isSome then .error .alreadyExists
      else .ok (d.put (q ++ [n]) .folder) := by
  obtain ⟨parts, hj, hp⟩ := Path.steps_join h p
  have hs : d.start (p.join n) = d.start p := by simp [start, Path.isAbsolute_join h]
  rw [makeFolder, if_neg (Path.text_join_ne h p), lastPart_join h hj, enter_of_steps hp]
  simp only [hs, newPlace_name h]
  cases (d.walk (d.start p) parts).bind (d.step · "") with
  | error e => rfl
  | ok q => simp [bind, Except.bind, Except.map, pure, Except.pure, throw, throwThe, MonadExceptOf.throw]

theorem enter_join {n : String} (h : IsName n) (d : Disk) (p : Path) :
    d.enter (p.join n) = (d.enter p).bind fun q =>
      if (d.item? (q ++ [n])).isSome then d.step (q ++ [n]) "" else .error .notFound := by
  obtain ⟨parts, hj, hp⟩ := Path.steps_join h p
  have hs : d.start (p.join n) = d.start p := by simp [start, Path.isAbsolute_join h]
  have hone (q : Place) : d.walk q [n] = d.step q n := by
    rw [walk_cons]
    cases d.step q n <;> rfl
  rw [enter_of_steps (Or.inl hj), hs, walk_append, enter_of_steps hp]
  cases d.walk (d.start p) parts with
  | error e => rfl
  | ok q =>
    simp only [Except.bind, hone]
    rw [step_name h]
    cases d.step q "" with
    | error e => rfl
    | ok r =>
      simp only [Except.bind]
      cases (d.item? (r ++ [n])).isSome <;> rfl

theorem find_write_join_of_ne {n m : String} (hn : IsName n) (hm : IsName m) (hne : n ≠ m)
    {d made : Disk} {p : Path} {content : ByteArray} (h : d.write (p.join m) content = .ok made) :
    made.find (p.join n) = d.find (p.join n) := by
  rw [write_join hm] at h
  cases he : d.enter p with
  | error e => simp [he, Except.bind] at h
  | ok q =>
    simp only [he, Except.bind] at h
    split at h
    · simp at h
    · next hf =>
      cases h
      have hem : (d.put (q ++ [m]) (.file content)).enter p = .ok q := walk_put hf he
      have hi : (d.put (q ++ [m]) (.file content)).item? (q ++ [n]) = d.item? (q ++ [n]) :=
        item?_put_of_ne d _ (by simp [hne])
      rw [find_join hn, find_join hn, he, hem]
      simp only [Except.bind, hi]

end Disk

end StageGate
